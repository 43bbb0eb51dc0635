/-
# Values that survive a document

A value reads back from what is written of it when every reader of the document
gives that value again, wherever the document comes from; the fields of the
objects in it may have changed their order. A list, dictionary or record reads
back if its parts do, and a tagged record if no variant before its own has its
tag. A decoder settles if all that it gives reads back.

Key definitions: `Document.Decoder.ReadsBack`, `Document.Decoder.Reads`,
`Document.Decoder.Settles`,
`Document.Fields.Holds`, `Document.present`.
Key theorems: `Document.readsBack_decodeList`, `Document.readsBack_decodeDict`,
`Document.readsBack_decodeRecord`, `Document.readsBack_decodeTagged`,
`Document.Fields.Holds.required`, `Document.Fields.Holds.optional`.
-/
import PageFlow.Proofs.Document.Decoder
import PageFlow.Proofs.Document.Record

namespace PageFlow

/-! ### Canonical fields -/

namespace Json

theorem keys_canonicalFields : ∀ fields : Dict Json,
    Dict.keys (canonicalFields fields) = Dict.keys fields
  | [] => rfl
  | (k, _) :: rest => congrArg (k :: ·) (keys_canonicalFields rest)

theorem find?_canonicalFields (key : String) : ∀ fields : Dict Json,
    Dict.find? key (canonicalFields fields) = (Dict.find? key fields).map canonical
  | [] => rfl
  | (k, x) :: rest => by
    rw [canonicalFields, Dict.find?, Dict.find?, find?_canonicalFields key rest]
    split <;> rfl

theorem canonicalItems_map {α : Type} (encode : α → Json) : ∀ xs : List α,
    canonicalItems (xs.map encode) = xs.map fun x => (encode x).canonical
  | [] => rfl
  | x :: rest => congrArg ((encode x).canonical :: ·) (canonicalItems_map encode rest)

theorem canonicalFields_mapValues {α : Type} (encode : α → Json) : ∀ d : Dict α,
    canonicalFields (d.mapValues encode) = d.mapValues fun x => (encode x).canonical
  | [] => rfl
  | (k, x) :: rest =>
    congrArg ((k, (encode x).canonical) :: ·) (canonicalFields_mapValues encode rest)

theorem canonical_ne_null {value : Json} (h : value ≠ .null) : value.canonical ≠ .null := by
  cases value with
  | null => exact absurd rfl h
  | _ => exact nofun

/-- What is found in an object in canonical form is what the object has, in canonical form. -/
theorem find?_ofList_canonicalFields {fields : Dict Json} (hkeys : fields.keys.Nodup)
    (key : String) :
    Dict.find? key (Dict.ofList (canonicalFields fields)) =
      (Dict.find? key fields).map canonical := by
  rw [Dict.find?_ofList (by rwa [keys_canonicalFields]), find?_canonicalFields]

end Json

namespace Document

variable {α β : Type}

/-- From the document with this value every reader gets `x`. -/
def Decoder.ReadsBack (decode : Decoder α) (value : Json) (x : α) : Prop :=
  ∀ origin, decode origin (Node.ofJson value.canonical) = .ok x

/-- The value is one that the decoder gives. -/
def Decoder.Reads (decode : Decoder α) (x : α) : Prop :=
  ∃ origin node, decode origin node = .ok x

/-- All that the decoder gives reads back from what is written of it. -/
def Decoder.Settles (decode : Decoder α) (encode : α → Json) : Prop :=
  decode.Gives fun x => decode.ReadsBack (encode x) x

theorem Decoder.ReadsBack.unique {decode : Decoder α} {value : Json} {x y : α}
    (hx : decode.ReadsBack value x) (hy : decode.ReadsBack value y) : x = y :=
  Except.ok.inj ((hx .value).symm.trans (hy .value))

theorem Decoder.Gives.of_reads {decode : Decoder α} {p : α → Prop} (h : decode.Gives p) {x : α}
    (hx : decode.Reads x) : p x := by
  obtain ⟨origin, node, hx⟩ := hx
  exact h origin node x hx

/-! ### Values -/

theorem readsBack_decodeText (s : String) : decodeText.ReadsBack (.string s) s := fun _ => rfl

theorem readsBack_decodeBool (b : Bool) : decodeBool.ReadsBack (.bool b) b := fun _ => rfl

theorem readsBack_decodeFloat (x : Binary64) :
    decodeFloat.ReadsBack (.number (.float x)) x := fun _ => rfl

theorem readsBack_decodeJson {value : Json} (h : value.Ordered) :
    decodeJson.ReadsBack value value := by
  intro origin
  rw [decodeJson, Json.canonical_of_ordered h, Node.json, Node.content_ofJson, Except.map,
    Json.canonical_of_ordered h]

section
variable {decode : Decoder α} {encode : α → Json}

theorem readsBack_decodeList {xs : List α} (h : ∀ x ∈ xs, decode.ReadsBack (encode x) x) :
    (decodeList decode).ReadsBack (.array (xs.map encode)) xs := by
  intro origin
  rw [Json.canonical, Json.canonicalItems_map]
  exact decodeList_ofJson fun x hx => h x hx origin

theorem readsBack_decodeDict {d : Dict α} (hsorted : Dict.Sorted d)
    (h : ∀ e ∈ d, decode.ReadsBack (encode e.2) e.2) :
    (decodeDict decode).ReadsBack (.object (d.mapValues encode)) d := by
  intro origin
  rw [Json.canonical, Json.canonicalFields_mapValues, Dict.ofList_of_sorted (hsorted.mapValues _)]
  exact decodeDict_ofJson hsorted fun e he => h e he origin

theorem Decoder.Settles.list (h : decode.Settles encode) :
    (decodeList decode).Settles fun xs => .array (xs.map encode) :=
  fun origin node xs hxs => readsBack_decodeList (gives_decodeList h origin node xs hxs)

theorem Decoder.Settles.dict (h : decode.Settles encode) :
    (decodeDict decode).Settles fun d => .object (d.mapValues encode) :=
  fun origin node d hd => readsBack_decodeDict (gives_decodeDict decode origin node d hd)
    (gives_decodeDict_values h origin node d hd)

end

theorem readsBack_decodeFields {fields : Dict Json} (h : (Json.object fields).Ordered) :
    (decodeDict decodeJson).ReadsBack (.object fields) fields := by
  have hread : (decodeDict decodeJson).ReadsBack (.object (fields.mapValues id)) fields :=
    readsBack_decodeDict h.1 fun e he =>
      readsBack_decodeJson (Json.orderedFields_iff.mp h.2 e he)
  have hid : fields.mapValues id = fields := List.map_id fields
  rwa [hid] at hread

theorem ordered_of_decodeFields :
    (decodeDict decodeJson).Gives fun fields => (Json.object fields).Ordered := by
  have hvalues : decodeJson.Gives Json.Ordered := fun _ _ _ h => Node.ordered_of_json h
  intro origin node fields h
  exact ⟨gives_decodeDict decodeJson origin node fields h,
    Json.orderedFields_iff.mpr (gives_decodeDict_values hvalues origin node fields h)⟩

theorem settles_decodeFields : (decodeDict decodeJson).Settles Json.object :=
  fun origin node fields h =>
    readsBack_decodeFields (ordered_of_decodeFields origin node fields h)

theorem readsBack_decodeTexts (texts : List String) :
    (decodeList decodeText).ReadsBack (Json.ofTexts texts) texts :=
  readsBack_decodeList fun s _ => readsBack_decodeText s

/-! ### Fields -/

/-- Under the name stands the value, if there is one. -/
def Fields.Holds (found : Fields) (name : String) (value : Option Json) : Prop :=
  (found.slot? name).map (fun slot => (slot.node, slot.after)) =
    value.map fun v => (Node.ofJson v.canonical, none)

namespace Fields.Holds

variable {found : Fields} {name : String} {decode : Node → Decoded α} {x : α} {value : Json}

theorem exists_slot (h : found.Holds name (some value)) :
    ∃ slot, found.slot? name = some slot ∧ slot.node = Node.ofJson value.canonical ∧
      slot.after = none := by
  obtain ⟨slot, hslot, heq⟩ := Option.map_eq_some_iff.mp h
  obtain ⟨hnode, hafter⟩ := Prod.mk.inj heq
  exact ⟨slot, hslot, hnode, hafter⟩

theorem required (h : found.Holds name (some value))
    (hx : decode (Node.ofJson value.canonical) = .ok x) :
    found.required name decode = .done x := by
  obtain ⟨slot, hslot, hnode, -⟩ := h.exists_slot
  rw [Fields.required, hslot]
  dsimp only
  rw [Fields.read, hnode, hx]
  rfl

theorem defaulted {default : α} (h : found.Holds name (some value))
    (hx : decode (Node.ofJson value.canonical) = .ok x) :
    found.defaulted name default decode = .done x := by
  obtain ⟨slot, hslot, hnode, -⟩ := h.exists_slot
  rw [Fields.defaulted, hslot]
  dsimp only
  rw [Fields.read, hnode, hx]
  rfl

theorem defaulted_absent {default : α} (h : found.Holds name none) :
    found.defaulted name default decode = .done default := by
  rw [Fields.defaulted, Option.map_eq_none_iff.mp h]

/-- A list that is left out when it is empty. -/
theorem defaulted_list {xs : List α} {decode : Node → Decoded (List α)}
    (h : found.Holds name (if xs.isEmpty then none else some value))
    (hxs : decode (Node.ofJson value.canonical) = .ok xs) :
    found.defaulted name [] decode = .done xs := by
  cases xs with
  | nil => exact h.defaulted_absent
  | cons x rest => exact h.defaulted hxs

/-- A field that may be absent reads back if its value does and is not `null`. -/
theorem optional {o : Option α} {encode : α → Json} (h : found.Holds name (o.map encode))
    (hx : ∀ x ∈ o, encode x ≠ .null ∧ decode (Node.ofJson (encode x).canonical) = .ok x) :
    found.optional name decode = .done o := by
  cases o with
  | none => exact h.defaulted_absent
  | some x =>
    obtain ⟨hnull, hx⟩ := hx x rfl
    refine h.defaulted ?_
    rw [decodeOption_of_not_null (Json.canonical_ne_null hnull), hx]
    rfl

theorem optional_text {o : Option String} {origin : Origin}
    (h : found.Holds name (o.map .string)) :
    found.optional name (decodeText origin) = .done o :=
  h.optional fun _ _ => ⟨nofun, rfl⟩

theorem optional_json {o : Option Json} {origin : Origin} (h : found.Holds name o)
    (hx : ∀ x ∈ o, x.Ordered ∧ x ≠ .null) :
    found.optional name (decodeJson origin) = .done o := by
  have hmap : found.Holds name (o.map id) := by rwa [Option.map_id]
  exact hmap.optional fun x hmem => ⟨(hx x hmem).2, readsBack_decodeJson (hx x hmem).1 origin⟩

/-- A field that stands as `null` when it is absent reads back if its value does
and is not `null`. -/
theorem nullable {o : Option α} {encode : α → Json}
    (h : found.Holds name (some ((o.map encode).getD .null)))
    (hx : ∀ x ∈ o, encode x ≠ .null ∧ decode (Node.ofJson (encode x).canonical) = .ok x) :
    found.nullable name decode = .done o := by
  obtain ⟨slot, hslot, hnode, hafter⟩ := h.exists_slot
  rw [Fields.nullable, hslot]
  dsimp only
  rw [Fields.read, hnode, hafter]
  cases o with
  | none => rfl
  | some x =>
    obtain ⟨hnull, hx⟩ := hx x rfl
    rw [Option.map_some, Option.getD_some, decodeOption_of_not_null (Json.canonical_ne_null hnull), hx]
    rfl

end Fields.Holds

theorem eq_null_of_json {node : Node} (h : node.json = .ok .null) :
    ∃ start stop, node = .scalar start stop .null := by
  obtain ⟨content, hcontent, hnull⟩ := eq_ok_of_map h
  obtain rfl : content = .null := by
    by_contra hne
    exact Json.canonical_ne_null hne hnull
  unfold Node.content at hcontent
  split at hcontent
  · next start stop value =>
    have hvalue := Except.ok.inj hcontent
    cases value with
    | null => exact ⟨start, stop, rfl⟩
    | _ => cases hvalue
  · cases hcontent
  · cases hcontent
  · cases hcontent
  · obtain ⟨_, -, hmap⟩ := eq_ok_of_map hcontent
    cases hmap
  · cases hcontent
  · obtain ⟨_, -, hmap⟩ := eq_ok_of_map hcontent
    cases hmap

section
variable {decode : Decoder α} {encode : α → Json} (h : decode.Settles encode) (fields : Fields)
  (name : String) (origin : Origin)

include h

theorem Decoder.Settles.required :
    (fields.required name (decode origin)).Gives fun x => decode.ReadsBack (encode x) x :=
  fields.gives_required name (h origin)

theorem Decoder.Settles.optional :
    (fields.optional name (decode origin)).Gives fun o =>
      ∀ x ∈ o, decode.ReadsBack (encode x) x :=
  fields.gives_optional name (h origin)

theorem Decoder.Settles.defaulted {default : α}
    (hdefault : decode.ReadsBack (encode default) default) :
    (fields.defaulted name default (decode origin)).Gives fun x =>
      decode.ReadsBack (encode x) x :=
  fields.gives_defaulted name hdefault (h origin)

end

/-- A value that may be absent or `null` is not `null` if there is one. -/
theorem gives_optional_json (fields : Fields) (name : String) (origin : Origin) :
    (fields.optional name (decodeJson origin)).Gives fun o => ∀ x ∈ o, x.Ordered ∧ x ≠ .null := by
  refine fields.gives_defaulted name (by simp) fun node o ho => ?_
  unfold decodeOption at ho
  split at ho
  · obtain rfl := Except.ok.inj ho
    simp
  · next node hnode =>
    obtain ⟨x, hx, rfl⟩ := eq_ok_of_map ho
    rintro _ ⟨⟩
    refine ⟨Node.ordered_of_json hx, ?_⟩
    rintro rfl
    obtain ⟨start, stop, rfl⟩ := eq_null_of_json hx
    exact hnode start stop rfl

/-! ### Records -/

/-- The fields that are there, of a list of names with their values. -/
def present (entries : List (String × Option Json)) : Dict Json :=
  entries.filterMap fun e => e.2.map fun v => (e.1, v)

theorem keys_present_sublist : ∀ entries : List (String × Option Json),
    (Dict.keys (present entries)).Sublist (entries.map (·.1))
  | [] => .slnil
  | (_, none) :: rest => (keys_present_sublist rest).cons _
  | (_, some _) :: rest => (keys_present_sublist rest).cons_cons _

theorem find?_present : ∀ {entries : List (String × Option Json)}, (entries.map (·.1)).Nodup →
    ∀ e ∈ entries, Dict.find? e.1 (present entries) = e.2
  | first :: rest, hnames, e, he => by
    obtain ⟨hfirst, hrest⟩ := List.nodup_cons.mp hnames
    have hcons : Dict.find? e.1 (present (first :: rest)) =
        if first.1 = e.1 then first.2.or (Dict.find? e.1 (present rest))
        else Dict.find? e.1 (present rest) := by
      obtain ⟨name, _ | value⟩ := first
      · exact (ite_self _).symm
      · rfl
    rw [hcons]
    rcases List.mem_cons.mp he with rfl | he
    · have habsent : Dict.find? e.1 (present rest) = none :=
        Dict.find?_eq_none fun other hother heq => by
          have hmem := (keys_present_sublist rest).subset (List.mem_map_of_mem hother)
          exact hfirst (by rwa [heq] at hmem)
      rw [if_pos rfl, habsent, Option.or_none]
    · have hne : first.1 ≠ e.1 := fun heq => hfirst (List.mem_map.mpr ⟨e, he, heq.symm⟩)
      rw [if_neg hne, find?_present hrest e he]

theorem holds_of_find? {kept : Dict Json} (hkeys : kept.keys.Nodup) {names : List String}
    {name : String} (hname : name ∈ names) {value : Option Json}
    (hfind : Dict.find? name kept = value.map Json.canonical) :
    ((Entries.ofJson kept).fields names 0 []).Holds name value := by
  rw [Fields.Holds, slot?_fields_ofJson hname 0 [] hkeys (by simp), hfind, Option.map_map]
  rfl

/-- A record reads back if from its fields, those that are there, it is built again. -/
theorem readsBack_decodeRecord {type : String} {names : List String}
    {build : Origin → Fields → Attempt α} {value : Json} {x : α}
    (entries : List (String × Option Json)) (hvalue : value = .object (present entries))
    (hnames : entries.map (·.1) = names) (hnodup : names.Nodup)
    (h : ∀ origin (found : Fields), (entries.Forall fun e => found.Holds e.1 e.2) →
      build origin found = .done x) :
    (decodeRecord type names build).ReadsBack value x := by
  intro origin
  subst hvalue hnames
  have hkeys : (Dict.keys (present entries)).Nodup := (keys_present_sublist entries).nodup hnodup
  have hkept := (Dict.sorted_ofList (Json.canonicalFields (present entries))).nodup_keys
  rw [Json.canonical, Node.ofJson, decodeRecord, Entries.record, Fields.intact,
    halted_fields_ofJson hkept (by simp), h origin]
  · rfl
  · refine List.forall_iff_forall_mem.mpr fun e he => ?_
    refine holds_of_find? hkept (List.mem_map_of_mem he) ?_
    rw [Json.find?_ofList_canonicalFields hkeys, find?_present hnodup e he]

/-! ### Tagged records -/

theorem Entries.without_ofJson (key : String) : ∀ fields : Dict Json,
    (Entries.ofJson fields).without key = Entries.ofJson (fields.filter fun e => e.1 != key)
  | [] => rfl
  | (k, x) :: rest => by
    rw [Entries.ofJson, Entries.without, Entries.without_ofJson key rest]
    by_cases hk : k = key <;> simp [hk, Entries.ofJson]

section
variable {tag type : String} {variants : List (Variant α)} {v : Variant α}

/-- Once the tag was seen the other entries change nothing. -/
theorem findTag_ofJson_of_absent : ∀ {fields : Dict Json}, (∀ e ∈ fields, e.1 ≠ tag) →
    (Entries.ofJson fields).findTag tag variants (some v) = .ok v
  | [], _ => rfl
  | (k, x) :: rest, h => by
    rw [Entries.ofJson, Entries.findTag, if_neg (h (k, x) List.mem_cons_self), Node.content_ofJson]
    exact findTag_ofJson_of_absent fun e he => h e (List.mem_cons_of_mem _ he)

theorem findTag_ofJson {name : String}
    (hv : decodeTag variants (Node.ofJson (.string name)) = .ok v) :
    ∀ {fields : Dict Json}, fields.keys.Nodup → Dict.find? tag fields = some (.string name) →
      (Entries.ofJson fields).findTag tag variants none = .ok v
  | (k, x) :: rest, hkeys, hfind => by
    obtain ⟨hk, hrest⟩ := List.nodup_cons.mp hkeys
    rw [Dict.find?] at hfind
    rw [Entries.ofJson, Entries.findTag]
    by_cases heq : k = tag
    · rw [if_pos heq] at hfind ⊢
      obtain rfl := Option.some.inj hfind
      rw [hv]
      exact findTag_ofJson_of_absent fun e he hsame =>
        hk (List.mem_map.mpr ⟨e, he, hsame.trans heq.symm⟩)
    · rw [if_neg heq] at hfind ⊢
      rw [Node.content_ofJson]
      exact findTag_ofJson hv hrest hfind

theorem find?_filter_ne {key name : String} (hne : name ≠ key) : ∀ fields : Dict Json,
    Dict.find? name (fields.filter fun e => e.1 != key) = Dict.find? name fields
  | [] => rfl
  | (k, x) :: rest => by
    by_cases hk : k = key
    · rw [List.filter_cons_of_neg (by simp [hk]), Dict.find?, if_neg (hk ▸ hne.symm),
        find?_filter_ne hne rest]
    · rw [List.filter_cons_of_pos (by simp [hk]), Dict.find?, Dict.find?, find?_filter_ne hne rest]

/-- A tagged record reads back if from the fields of its variant it is built again. -/
theorem readsBack_decodeTagged {value : Json} {x : α} (name : String)
    (entries : List (String × Option Json))
    (hvalue : value = .object (present ((tag, some (.string name)) :: entries)))
    (hv : decodeTag variants (Node.ofJson (.string name)) = .ok v)
    (hnames : entries.map (·.1) = v.names) (hnodup : (tag :: v.names).Nodup)
    (h : ∀ found : Fields, (entries.Forall fun e => found.Holds e.1 e.2) →
      v.build .aside found = .done x) :
    (decodeTagged tag type variants).ReadsBack value x := by
  intro origin
  let all : List (String × Option Json) := (tag, some (.string name)) :: entries
  have hall : (all.map (·.1)).Nodup := by rwa [List.map_cons, hnames]
  have hkeys : (Dict.keys (present all)).Nodup := (keys_present_sublist all).nodup hall
  have hsorted : Dict.Sorted (Dict.ofList (Json.canonicalFields (present all))) :=
    Dict.sorted_ofList _
  have hfind : ∀ e ∈ all, Dict.find? e.1 (Dict.ofList (Json.canonicalFields (present all))) =
      e.2.map Json.canonical := fun e he => by
    rw [Json.find?_ofList_canonicalFields hkeys, find?_present hall e he]
  have htag := hfind _ List.mem_cons_self
  -- Without its tag the object has the fields of the variant.
  have hkept := (hsorted.sublist (List.filter_sublist (p := fun e => e.1 != tag))).nodup_keys
  rw [hvalue, Json.canonical, Node.ofJson, decodeTagged, findTag_ofJson hv hsorted.nodup_keys htag]
  dsimp only [bind, Except.bind]
  rw [Entries.without_ofJson, Entries.record, Fields.intact, halted_fields_ofJson hkept (by simp), h]
  · rfl
  · refine List.forall_iff_forall_mem.mpr fun e he => ?_
    have hmem : e.1 ∈ v.names := hnames ▸ List.mem_map_of_mem he
    have hne : e.1 ≠ tag := fun heq => (List.nodup_cons.mp hnodup).1 (heq ▸ hmem)
    refine holds_of_find? hkept hmem ?_
    rw [find?_filter_ne hne, hfind e (List.mem_cons_of_mem _ he)]

end

end Document
end PageFlow
