/-
# The fields of a body

The keys of a body are dotted paths inside it, and a key stands behind its dotted prefixes
in the order of keys. So the value of a prefix is written before the fields below it, which
are put into it and not overwritten. Each key is reported once or written, and what is
written stays unless a later key that is no prefix leads to the same place.

Key definitions: `DottedPrefix`.
Key theorems: `DottedPrefix.lt`, `ApiMapping.at?_body_of_takesEffect`, `ApiMapping.field_built`.
-/
import Mathlib.Data.List.Lex
import PageFlow.Proofs.Call.Assignment
import PageFlow.Proofs.Call.Checked

namespace PageFlow

/-- One key is what stands in front of a dot of the other. -/
def DottedPrefix (other key : String) : Prop := ∃ rest, key = other ++ "." ++ rest

/-- A dotted prefix stands in front. -/
theorem DottedPrefix.lt {other key : String} (h : DottedPrefix other key) : other < key := by
  obtain ⟨rest, rfl⟩ := h
  have hlist : (other ++ "." ++ rest).toList = other.toList ++ '.' :: rest.toList := by
    rw [String.toList_append, String.toList_append, List.append_assoc]
    rfl
  have hlonger : List.Lex (· < ·) (other.toList ++ []) (other.toList ++ '.' :: rest.toList) :=
    List.Lex.append_left _ .nil _
  rw [List.append_nil] at hlonger
  rw [String.lt_iff, hlist]
  exact hlonger

theorem bodyOf_of_at? {segments : List String} {fields : Dict Json} {v : Json}
    (hne : segments ≠ []) (h : Json.at? segments (.object fields) = some v) :
    bodyOf fields = some (.object fields) := by
  cases fields with
  | nil =>
    obtain ⟨segment, rest, rfl⟩ := List.exists_cons_of_ne_nil hne
    exact nomatch h
  | cons field fields => rfl

namespace ApiMapping

variable {mapping : ApiMapping} {scope : Scope} {front back : Dict MappingEntry} {key : String}
  {entry : MappingEntry}

/-- The value of a key that takes effect is found in the body, if no other value is mapped
under a key that leads to the same place, but for the prefixes of the key. -/
theorem at?_body_of_takesEffect (hsorted : Dict.Sorted (mapping.entries .body))
    (hentries : mapping.entries .body = front ++ (key, entry) :: back) {v : Json}
    (heffect : Area.body.TakesEffect scope [] front key entry v)
    (hbeside : ∀ other ∈ mappedValues scope (mapping.entries .body), other.1 ≠ key →
      DottedPrefix other.1 key ∨ ¬ Overlap (Text.split '.' other.1) (Text.split '.' key)) :
    ∃ body, (mapping.buildRequest scope).body = some body ∧
      Json.at? (Text.split '.' key) body = some v := by
  rw [hentries] at hsorted
  have hvalues := mappedValues_of_ok heffect.resolves key front back
  obtain ⟨target, next, htarget, hwrite⟩ := heffect.exists_write Area.put_body
  -- Only what is written behind the key counts, and no prefix is.
  have hback : ∀ later ∈ mappedValues scope back, Apart bodyPath later.1 key := by
    intro later hlater p q hp hq
    obtain ⟨source, hsource, -⟩ := mem_mappedValues.mp hlater
    have hlt : key < later.1 := hsorted.lt_of_split.2 (later.1, source) hsource
    have hmem : later ∈ mappedValues scope (mapping.entries .body) := by
      rw [hentries, hvalues]
      exact List.mem_append_right _ (List.mem_cons_of_mem _ hlater)
    rw [segments_of_bodyPath hp, segments_of_bodyPath hq]
    rcases hbeside later hmem (String.ne_of_lt hlt).symm with hprefix | hparts
    · exact absurd hprefix.lt (String.lt_asymm hlt)
    · exact hparts
  have hfound := at?_writeEach_of_write htarget hwrite hback
  rw [← hvalues, ← hentries, ← Area.fold_of_writes Area.put_body] at hfound
  refine ⟨_, ?_, segments_of_bodyPath htarget ▸ hfound⟩
  rw [buildRequest_eq]
  exact bodyOf_of_at? (segments_ne_nil_of_bodyPath htarget) hfound

/-- **No field of a body is lost.** Each key is reported with one error and has no effect, or
it is written and not reported. The value of a key that is written is found at its path in
the end, if each other value has a prefix of it for its key or leads elsewhere. No prefix of
a key is written behind it. -/
theorem field_built (hsorted : Dict.Sorted (mapping.entries .body))
    (hentries : mapping.entries .body = front ++ (key, entry) :: back) :
    let built := mapping.buildRequest scope
    let reported := built.errors.filter (EntryError.isOf .body key)
    let Written := Area.body.TakesEffect scope [] front key entry
    ((∃ fault, reported = [⟨Area.body.name, key, fault⟩]) ∧ (∀ v, ¬ Written v) ∨
        reported = [] ∧ ∃ v, Written v) ∧
      (∀ v, Written v →
        (∀ other ∈ mappedValues scope (mapping.entries .body), other.1 ≠ key →
          DottedPrefix other.1 key ∨ ¬ Overlap (Text.split '.' other.1) (Text.split '.' key)) →
        ∃ body, built.body = some body ∧ Json.at? (Text.split '.' key) body = some v) ∧
      ∀ later ∈ back, ¬ DottedPrefix later.1 key := by
  intro built reported Written
  refine ⟨?_, fun v hv hbeside => at?_body_of_takesEffect hsorted hentries hv hbeside, ?_⟩
  · obtain ⟨hfront, hback⟩ := Dict.Sorted.notMem_of_split (hentries ▸ hsorted)
    have hreported : reported = Area.body.errors
        (faultsOf key (Area.body.fold scope (front ++ (key, entry) :: back) []).2) := by
      rw [← hentries]
      exact mapping.filter_isOf_built scope key
    rcases Area.body.failsAt_or_takesEffect scope [] front key entry with
      ⟨fault, hfails⟩ | ⟨v, heffect⟩
    · refine .inl ⟨⟨fault, ?_⟩, fun v hv => hv.not_failsAt fault hfails⟩
      rw [hreported, Area.faultsOf_of_failsAt hfront hback hfails]
      rfl
    · refine .inr ⟨?_, v, heffect⟩
      rw [hreported, Area.faultsOf_of_takesEffect hfront hback heffect]
      rfl
  · intro later hlater hprefix
    rw [hentries] at hsorted
    exact String.lt_asymm hprefix.lt (hsorted.lt_of_split.2 later hlater)

/-- A call that sends a guest with a new name, and the number of seats. -/
def reservation : ApiMapping where
  apiId := "reserve"
  method := "POST"
  endpoint := "/reservations"
  requestMap := ⟨[], [], [("guest", ⟨"data.guest", none⟩), ("guest.name", ⟨"data.name", none⟩),
    ("seats", ⟨"data.seats", none⟩)]⟩
  responseMap := ⟨[], []⟩

/-- The new name is written into the guest, and stays. -/
theorem field_built_reservation :
    let scope := Scope.ofData [("guest", .object [("id", .string "g7")]), ("name", .string "Ada")]
      (.object [])
    let front : Dict MappingEntry := [("guest", ⟨"data.guest", none⟩)]
    let back : Dict MappingEntry := [("seats", ⟨"data.seats", none⟩)]
    let entry : MappingEntry := ⟨"data.name", none⟩
    let built := reservation.buildRequest scope
    Dict.Sorted (reservation.entries .body) ∧
      reservation.entries .body = front ++ ("guest.name", entry) :: back ∧
      Area.body.TakesEffect scope [] front "guest.name" entry (.string "Ada") ∧
      ∃ body, built.body = some body ∧
        Json.at? (Text.split '.' "guest.name") body = some (.string "Ada") := by
  intro scope front back entry built
  have hsorted : Dict.Sorted (reservation.entries .body) := by decide
  have hentries : reservation.entries .body = front ++ ("guest.name", entry) :: back := rfl
  have hguest : MappingEntry.Copies ⟨"data.guest", none⟩ ["guest"] :=
    ⟨rfl, ⟨"data.guest", .data, ["guest"]⟩, by rfl, rfl, rfl⟩
  have hname : MappingEntry.Copies ⟨"data.name", none⟩ ["name"] :=
    ⟨rfl, ⟨"data.name", .data, ["name"]⟩, by rfl, rfl, rfl⟩
  have hvalues : mappedValues scope front = [("guest", .object [("id", .string "g7")])] := by
    simp only [front, mappedValues, hguest.resolve]
    rfl
  have hpath : bodyPath "guest.name" = .ok ⟨"data.guest.name", .data, ["guest", "name"]⟩ := by rfl
  have hwrite : write ⟨"data.guest.name", .data, ["guest", "name"]⟩ (.string "Ada")
      (writeEach bodyPath (mappedValues scope front) []).1 =
        .ok [("guest", .object [("id", .string "g7"), ("name", .string "Ada")])] := by
    rw [hvalues]
    rfl
  have heffect : Area.body.TakesEffect scope [] front "guest.name" entry (.string "Ada") :=
    Area.takesEffect_of_write Area.put_body (hname.resolve scope) hpath hwrite
  refine ⟨hsorted, hentries, heffect, (field_built hsorted hentries).2.1 _ heffect ?_⟩
  intro other hother hne
  obtain ⟨source, hsource, -⟩ := mem_mappedValues.mp hother
  have hkeys : other.1 = "guest" ∨ other.1 = "guest.name" ∨ other.1 = "seats" := by
    simpa [entries, reservation] using List.mem_map_of_mem (f := Prod.fst) hsource
  rcases hkeys with hkey | hkey | hkey
  · exact .inl ⟨"name", hkey ▸ rfl⟩
  · exact absurd hkey hne
  · rw [hkey]
    exact .inr (by decide +kernel)

end ApiMapping
end PageFlow
