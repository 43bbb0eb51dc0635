/-
# What decoders give

A property of all values that a decoder gives carries over to the lists,
dictionaries and records that are read with it: an item that is read was given by
the decoder of items, and a field by the decoder of that field or as a default.

Key definitions: `Document.Decoder.Gives`, `Document.Attempt.Gives`.
Key theorems: `Document.gives_decodeList`, `Document.gives_decodeDict`,
`Document.gives_decodeDict_values`, `Document.gives_decodeRecord`,
`Document.gives_decodeTagged`.
-/
import PageFlow.Document.Decoder
import PageFlow.Document.Record
import PageFlow.Proofs.Dict
import PageFlow.Proofs.Outcome

namespace PageFlow
namespace Document

/-- All values that the decoder gives have the property. -/
def Decoder.Gives {α : Type} (decode : Decoder α) (p : α → Prop) : Prop :=
  ∀ origin node x, decode origin node = .ok x → p x

/-- The value of the attempt, if it has one, has the property. -/
def Attempt.Gives {α : Type} (attempt : Attempt α) (p : α → Prop) : Prop :=
  ∀ x, attempt = .done x → p x

variable {α β : Type} {p : α → Prop} {q : β → Prop}

theorem exists_of_parse {decode : Decoder α} {text : List Char} {x : α}
    (h : parse decode text = .ok x) : ∃ node, decode .text node = .ok x := by
  unfold parse at h
  dsimp only at h
  split at h
  · exact nomatch h
  · exact nomatch h
  · next hdecode _ =>
    obtain rfl := Except.ok.inj h
    exact ⟨_, hdecode⟩

namespace Attempt

theorem gives_trivial (attempt : Attempt α) : attempt.Gives fun _ => True := fun _ _ => trivial

/-- What two attempts give together has a property that holds of all that each gives. -/
theorem Gives.seq {f : Attempt (α → β)} {attempt : Attempt α}
    (hf : f.Gives fun g => ∀ x, p x → q (g x)) (h : attempt.Gives p) :
    (f <*> attempt).Gives q := by
  intro y hy
  cases f with
  | done g =>
    cases attempt with
    | done x =>
      obtain rfl : g x = y := done.inj hy
      exact hf g rfl x (h x rfl)
    | failed position e => exact nomatch hy
  | failed position e =>
    cases attempt with
    | done x => exact nomatch hy
    | failed position' e' =>
      have hy : (if position' < position then failed position' e' else failed position e) =
        (done y : Attempt β) := hy
      split at hy <;> exact nomatch hy

theorem Gives.seq_any {f : Attempt (α → β)} {attempt : Attempt α}
    (hf : f.Gives fun g => ∀ x, q (g x)) : (f <*> attempt).Gives q :=
  Gives.seq (fun g hg x _ => hf g hg x) attempt.gives_trivial

theorem Gives.map {g : α → β} {attempt : Attempt α} (h : attempt.Gives p)
    (hg : ∀ x, p x → q (g x)) : (g <$> attempt).Gives q :=
  Gives.seq (fun _ hd => done.inj hd ▸ hg) h

theorem Gives.map_any {g : α → β} {attempt : Attempt α} (hg : ∀ x, q (g x)) :
    (g <$> attempt).Gives q :=
  Gives.seq_any fun _ hd => done.inj hd ▸ hg

theorem Gives.decoded {attempt : Attempt α} (h : attempt.Gives p) {x : α}
    (hx : attempt.decoded = .ok x) : p x := by
  cases attempt with
  | done y => exact Except.ok.inj hx ▸ h y rfl
  | failed position e => exact nomatch hx

end Attempt

/-! ### Lists -/

theorem Items.forall_decode {decode : Node → Decoded α} (h : ∀ node x, decode node = .ok x → p x) :
    ∀ {items : Items} {xs : List α}, items.decode decode = .ok xs → ∀ x ∈ xs, p x
  | .closed _, xs, hxs => by
    obtain rfl : [] = xs := Except.ok.inj hxs
    simp
  | .broken _ _ _, xs, hxs => nomatch hxs
  | .item node after rest, xs, hxs => by
    unfold Items.decode at hxs
    split at hxs
    · exact nomatch hxs
    · next x hx =>
      obtain ⟨ys, hys, rfl⟩ := eq_ok_of_map hxs
      exact List.forall_mem_cons.mpr ⟨h node x (eq_ok_of_mapError hx), Items.forall_decode h hys⟩

theorem gives_decodeList {decode : Decoder α} (h : decode.Gives p) :
    (decodeList decode).Gives fun xs => ∀ x ∈ xs, p x := by
  intro origin node xs hxs
  unfold decodeList at hxs
  split at hxs
  · exact nomatch hxs
  · exact Items.forall_decode (h origin) hxs
  · exact nomatch hxs

/-! ### Dictionaries -/

theorem Entries.forall_decode {decode : Node → Decoded α}
    (h : ∀ node x, decode node = .ok x → p x) :
    ∀ {entries : Entries} {xs : List (String × α)}, entries.decode decode = .ok xs →
      ∀ e ∈ xs, p e.2
  | .closed _, xs, hxs => by
    obtain rfl : [] = xs := Except.ok.inj hxs
    simp
  | .broken _ _, xs, hxs => nomatch hxs
  | .entry (.error _) _ _ _ _, xs, hxs => nomatch hxs
  | .entry (.ok key) afterKey node after rest, xs, hxs => by
    unfold Entries.decode at hxs
    split at hxs
    · exact nomatch hxs
    · next x hx =>
      obtain ⟨ys, hys, rfl⟩ := eq_ok_of_map hxs
      exact List.forall_mem_cons.mpr ⟨h node x (eq_ok_of_mapError hx), Entries.forall_decode h hys⟩

theorem exists_of_decodeDict {decode : Decoder α} {origin : Origin} {node : Node} {d : Dict α}
    (hd : decodeDict decode origin node = .ok d) :
    ∃ (entries : Entries) (xs : List (String × α)),
      entries.decode (decode origin) = .ok xs ∧ Dict.ofList xs = d := by
  unfold decodeDict at hd
  split at hd
  · exact nomatch hd
  · next entries =>
    obtain ⟨xs, hxs, hof⟩ := eq_ok_of_map hd
    exact ⟨entries, xs, hxs, hof⟩
  · exact nomatch hd

theorem gives_decodeDict (decode : Decoder α) : (decodeDict decode).Gives Dict.Sorted := by
  intro origin node d hd
  obtain ⟨-, xs, -, rfl⟩ := exists_of_decodeDict hd
  exact Dict.sorted_ofList xs

theorem gives_decodeDict_values {decode : Decoder α} (h : decode.Gives p) :
    (decodeDict decode).Gives fun d => ∀ e ∈ d, p e.2 := by
  intro origin node d hd e he
  obtain ⟨entries, xs, hxs, rfl⟩ := exists_of_decodeDict hd
  have hmem : e ∈ xs := (Dict.mem_of_mem_insertAll xs [] he).resolve_right List.not_mem_nil
  exact Entries.forall_decode (h origin) hxs e hmem

/-! ### Fields -/

namespace Fields

variable (fields : Fields) (name : String) {decode : Node → Decoded α}

theorem gives_read {slot : Slot} (h : ∀ node x, decode node = .ok x → p x) :
    (read slot decode).Gives p := by
  intro x hx
  unfold read at hx
  cases hread : settling slot.after (decode slot.node) with
  | error e =>
    rw [hread] at hx
    exact nomatch hx
  | ok y =>
    rw [hread] at hx
    obtain rfl : y = x := Attempt.done.inj hx
    exact h slot.node y (eq_ok_of_mapError hread)

theorem gives_required (h : ∀ node x, decode node = .ok x → p x) :
    (fields.required name decode).Gives p := by
  unfold required
  split
  · exact gives_read h
  · exact fun x hx => nomatch hx

theorem gives_defaulted {default : α} (hdefault : p default)
    (h : ∀ node x, decode node = .ok x → p x) : (fields.defaulted name default decode).Gives p := by
  unfold defaulted
  split
  · exact gives_read h
  · exact fun x hx => Attempt.done.inj hx ▸ hdefault

theorem gives_optional (h : ∀ node x, decode node = .ok x → p x) :
    (fields.optional name decode).Gives fun o => ∀ x ∈ o, p x := by
  refine gives_defaulted fields name (by simp) fun node o ho => ?_
  unfold decodeOption at ho
  split at ho
  · obtain rfl := Except.ok.inj ho
    simp
  · obtain ⟨x, hx, rfl⟩ := eq_ok_of_map ho
    exact fun y hy => Option.some.inj hy ▸ h _ x hx

end Fields

/-! ### Records -/

/-- The reading of a record that may have been ended by an error. -/
theorem Fields.gives_intact {fields : Fields} {attempt : Attempt α} (h : attempt.Gives p) :
    ((fun _ x => x) <$> fields.intact <*> attempt).Gives p :=
  Attempt.Gives.seq (Attempt.Gives.map_any fun _ _ hp => hp) h

theorem Entries.of_record {names : List String} {build : Fields → Attempt α}
    (h : ∀ fields, (build fields).Gives p) {entries : Entries} {x : α}
    (hx : entries.record names build = .ok x) : p x :=
  (Fields.gives_intact (h _)).decoded hx

theorem Items.of_record {origin : Origin} {type : String} {names : List String}
    {build : Fields → Attempt α} (h : ∀ fields, (build fields).Gives p) {items : Items} {x : α}
    (hx : items.record origin type names build = .ok x) : p x := by
  unfold Items.record at hx
  obtain ⟨y, hy, hx⟩ := eq_ok_of_bind hx
  split at hx
  · exact nomatch hx
  · exact Except.ok.inj hx ▸ (Fields.gives_intact (h _)).decoded hy

/-- A property of all that the fields of a record give holds of all records that are read. -/
theorem gives_decodeRecord {type : String} {names : List String}
    {build : Origin → Fields → Attempt α} (h : ∀ origin fields, (build origin fields).Gives p) :
    (decodeRecord type names build).Gives p := by
  intro origin node x hx
  unfold decodeRecord at hx
  split at hx
  · exact nomatch hx
  · exact Entries.of_record (h _) hx
  · exact nomatch hx
  · exact Items.of_record (h _) hx
  · exact nomatch hx

theorem mem_of_findVariant {variants : List (String × α)} {name : String} {place : Place} {v : α}
    (h : findVariant variants name place = .ok v) : v ∈ variants.map (·.2) := by
  unfold findVariant at h
  split at h
  · next found hfound =>
    obtain rfl := Except.ok.inj h
    exact List.mem_map_of_mem (List.mem_of_find?_eq_some hfound)
  · exact nomatch h

theorem mem_of_decodeTag {variants : List (Variant α)} {node : Node} {v : Variant α}
    (h : decodeTag variants node = .ok v) : v ∈ variants := by
  unfold decodeTag at h
  split at h
  · simpa using mem_of_findVariant h
  · exact nomatch h

theorem Entries.mem_of_findTag {tag : String} {variants : List (Variant α)} {v : Variant α}
    {entries : Entries} {seen : Option (Variant α)} (hseen : ∀ s ∈ seen, s ∈ variants)
    (h : entries.findTag tag variants seen = .ok v) : v ∈ variants := by
  fun_induction findTag tag variants seen entries with
  | case1 s stop => exact Except.ok.inj h ▸ hseen s rfl
  | case7 seen _ _ _ _ _ s hs ih =>
    have hmem := mem_of_decodeTag (eq_ok_of_mapError hs)
    exact ih (fun _ he => Option.some.inj he ▸ hmem) h
  | case9 _ _ _ _ _ _ _ _ _ ih => exact ih hseen h
  | _ => exact nomatch h

/-- A property of all that the fields of every variant give holds of all that is read. -/
theorem gives_decodeTagged {tag type : String} {variants : List (Variant α)}
    (h : ∀ v ∈ variants, ∀ origin fields, (v.build origin fields).Gives p) :
    (decodeTagged tag type variants).Gives p := by
  intro origin node x hx
  unfold decodeTagged at hx
  split at hx
  · exact nomatch hx
  · obtain ⟨v, hv, hx⟩ := eq_ok_of_bind hx
    have hmem : v ∈ variants := Entries.mem_of_findTag (by simp) hv
    exact Entries.of_record (h v hmem _) (eq_ok_of_mapError hx)
  · exact nomatch hx
  · exact nomatch hx
  · exact nomatch hx
  · obtain ⟨v, hv, hx⟩ := eq_ok_of_bind hx
    obtain ⟨_, _, hx⟩ := eq_ok_of_bind hx
    have hmem : v ∈ variants := mem_of_decodeTag (eq_ok_of_mapError hv)
    exact Items.of_record (h v hmem _) (eq_ok_of_mapError hx)
  · exact nomatch hx

end Document
end PageFlow
