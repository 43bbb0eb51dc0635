/-
# Keys with the name of the data in front

A key of the data means the same with and without the name of the data in front of it. But
entries are written in the order of their keys, so the other spelling moves an entry past
those whose keys lie between the two. The data that a call leaves stay the same unless one
of these has a target that overlaps that of the entry.

Key theorems: `Path.segments?_data`, `writeEach_rename`, `ApiMapping.renamed_call`,
`ApiMapping.not_renamed_call_profile`.
-/
import PageFlow.Proofs.Call.Assignment

namespace PageFlow

/-! ### Keys and their targets -/

namespace Path

/-- With the name of the data in front, a key names the target that it names without, unless
it starts with the name of a root. -/
theorem segments?_data {key : String}
    (h : ∀ root : Root, (Text.split '.' key).head? ≠ some root.name) :
    segments? parseDataTarget ("data." ++ key) = segments? parseDataTarget key := by
  have hfirst : ∀ root : Root, firstSegment key ≠ root.name := fun root hname =>
    h root (hname ▸ head?_split key)
  have hne := Text.split_ne_nil '.' key
  refine Option.ext fun segments => ?_
  rw [segments?_eq_some_iff, segments?_eq_some_iff]
  constructor
  · rintro ⟨path, hread, rfl⟩
    obtain ⟨-, -, rfl, hparts⟩ := (parseTarget_of_rooted (split_rooted .data key)).mp hread
    exact ⟨_, (parseTarget_of_bare hfirst).mpr ⟨rfl, hparts⟩, rfl⟩
  · rintro ⟨path, hread, rfl⟩
    obtain ⟨rfl, hparts⟩ := (parseTarget_of_bare hfirst).mp hread
    exact ⟨_, (parseTarget_of_rooted (split_rooted .data key)).mpr ⟨rfl, hne, rfl, hparts⟩, rfl⟩

end Path

/-! ### Entries that move -/

variable {parse : String → Except PathError Path} {key other : String}

/-- An entry may be written behind those in whose targets it has no part. -/
theorem foldl_writeNext_moved {v : Json} {middle : Dict Json}
    (h : ∀ e ∈ middle, Apart parse key e.1) (front back fields : Dict Json) :
    (front ++ middle ++ (key, v) :: back).foldl (writeNext parse) fields =
      (front ++ (key, v) :: (middle ++ back)).foldl (writeNext parse) fields := by
  simp only [List.foldl_append, List.foldl_cons]
  rw [← foldl_writeNext_comm (e := (key, v)) h]

theorem foldl_writeNext_respelled (h : segments? parse other = segments? parse key) (v : Json)
    (front back fields : Dict Json) :
    (front ++ (other, v) :: back).foldl (writeNext parse) fields =
      (front ++ (key, v) :: back).foldl (writeNext parse) fields := by
  simp only [List.foldl_append, List.foldl_cons]
  rw [writeNext_congr h]

/-- **An entry may have another key for its target**, if no value that is mapped under a key
between the two overlaps it. -/
theorem writeEach_rename {scope : Scope} {entries : Dict MappingEntry}
    (hsorted : Dict.Sorted entries) (hfresh : other ∉ Dict.keys entries)
    (hsame : segments? parse other = segments? parse key)
    (hbetween : ∀ e ∈ mappedValues scope entries, Dict.Between key other e.1 →
      Apart parse key e.1) (fields : Dict Json) :
    (writeEach parse (mappedValues scope (Dict.rename key other entries)) fields).1 =
      (writeEach parse (mappedValues scope entries) fields).1 := by
  cases hfind : Dict.find? key entries with
  | none => rw [Dict.rename, hfind]
  | some entry =>
    obtain ⟨front, middle, back, hmiddle, hcases⟩ := hsorted.rename_cases hfind hfresh
    have hsubset : middle ⊆ entries := by
      intro e he
      rcases hcases with ⟨rfl, -⟩ | ⟨rfl, -⟩ <;> simp [he]
    have hapart : ∀ e ∈ mappedValues scope middle, Apart parse key e.1 := by
      intro e he
      obtain ⟨source, hsource, hvalue⟩ := mem_mappedValues.mp he
      exact hbetween e (mem_mappedValues.mpr ⟨source, hsubset hsource, hvalue⟩)
        (hmiddle _ hsource)
    cases hvalue : entry.resolve scope with
    | error e =>
      rcases hcases with ⟨rfl, hrename⟩ | ⟨rfl, hrename⟩
      all_goals rw [hrename, mappedValues_of_error hvalue, mappedValues_of_error hvalue,
        List.append_assoc]
    | ok v =>
      rw [writeEach_fst, writeEach_fst]
      rcases hcases with ⟨rfl, hrename⟩ | ⟨rfl, hrename⟩
      all_goals rw [hrename, mappedValues_of_ok hvalue, mappedValues_of_ok hvalue,
        foldl_writeNext_respelled hsame, Area.mappedValues_append, Area.mappedValues_append,
        foldl_writeNext_moved hapart]

namespace ApiMapping

variable {mapping : ApiMapping} {context : Context} {data : Dict Json} {transport : Transport}

/-- **The name of the data in front of a key is optional.** A call leaves the same data when
a key for the data that does not start with the name of a root gets the name of the data in
front, unless a value is mapped under a key between the two whose target overlaps it. -/
theorem renamed_call (hsorted : Dict.Sorted (mapping.entries .data)) {key : String}
    (hroot : ∀ root : Root, (Text.split '.' key).head? ≠ some root.name)
    (hfresh : "data." ++ key ∉ Dict.keys (mapping.entries .data))
    (hbetween : ∀ value, mapping.Folds context data transport value →
      ∀ e ∈ mappedValues ⟨data, context.value, some value⟩ (mapping.entries .data),
        Dict.Between key ("data." ++ key) e.1 → Apart Path.parseDataTarget key e.1) :
    let renamed := mapping.withEntries .data
      (Dict.rename key ("data." ++ key) (mapping.entries .data))
    (renamed.call context data transport).data = (mapping.call context data transport).data := by
  intro renamed
  -- The same request is sent, so the same response is folded in, or none.
  by_cases h : ∃ value, mapping.Folds context data transport value
  · obtain ⟨value, hvalue⟩ := h
    have hvalue' : renamed.Folds context data transport value := hvalue
    rw [hvalue.data_eq, hvalue'.data_eq]
    exact writeEach_rename hsorted hfresh (Path.segments?_data hroot) (hbetween value hvalue) data
  · have hnone : ∀ value, ¬ mapping.Folds context data transport value := not_exists.mp h
    have hnone' : ∀ value, ¬ renamed.Folds context data transport value := hnone
    rw [(kept_of_not_folds hnone).1, (kept_of_not_folds hnone').1]

/-- A call that takes an account from the response and fills in its name. -/
def profile : ApiMapping where
  apiId := "profile"
  method := "GET"
  endpoint := "/profile"
  requestMap := ⟨[], [], []⟩
  responseMap := ⟨[("account", ⟨"response", none⟩), ("account.name", ⟨"literal:Ada", none⟩),
    ("booking", ⟨"literal:open", none⟩)], []⟩

/-- With the name of the data in front, the account is written behind its name, which is
lost. -/
theorem not_renamed_call_profile :
    let transport : Transport := fun _ => .ok ⟨200, "\x7b\"id\":7\x7d"⟩
    let renamed := profile.withEntries .data
      (Dict.rename "account" ("data." ++ "account") (profile.entries .data))
    Dict.Sorted (profile.entries .data) ∧
      (∀ root : Root, (Text.split '.' "account").head? ≠ some root.name) ∧
      "data." ++ "account" ∉ Dict.keys (profile.entries .data) ∧
      (renamed.call .empty [] transport).data ≠ (profile.call .empty [] transport).data := by
  intro transport renamed
  have hsorted : Dict.Sorted (profile.entries .data) := by decide
  have hroot : ∀ root : Root, (Text.split '.' "account").head? ≠ some root.name := by
    intro root
    cases root <;> decide
  have hkept : (Json.at? ["account", "name"]
      (.object (profile.call .empty [] transport).data)).isSome = true := by decide +kernel
  have hlost : (Json.at? ["account", "name"]
      (.object (renamed.call .empty [] transport).data)).isSome = false := by decide +kernel
  refine ⟨hsorted, hroot, by decide, fun hsame => ?_⟩
  rw [hsame, hkept] at hlost
  exact Bool.false_ne_true hlost.symm

/-- The name may be moved past the booking. -/
theorem renamed_call_name :
    let transport : Transport := fun _ => .ok ⟨200, "\x7b\"id\":7\x7d"⟩
    let renamed := profile.withEntries .data
      (Dict.rename "account.name" ("data." ++ "account.name") (profile.entries .data))
    Dict.Sorted (profile.entries .data) ∧
      (∀ root : Root, (Text.split '.' "account.name").head? ≠ some root.name) ∧
      "data." ++ "account.name" ∉ Dict.keys (profile.entries .data) ∧
      (∀ e ∈ profile.entries .data, Dict.Between "account.name" ("data." ++ "account.name") e.1 →
        Apart Path.parseDataTarget "account.name" e.1) ∧
      (renamed.call .empty [] transport).data = (profile.call .empty [] transport).data := by
  intro transport renamed
  have hsorted : Dict.Sorted (profile.entries .data) := by decide
  have hroot : ∀ root : Root, (Text.split '.' "account.name").head? ≠ some root.name := by
    intro root
    cases root <;> decide
  have hfresh : "data." ++ "account.name" ∉ Dict.keys (profile.entries .data) := by decide
  have hname : Path.parseDataTarget "account.name" =
      .ok ⟨"account.name", .data, ["account", "name"]⟩ := by rfl
  have hbooking : Path.parseDataTarget "booking" = .ok ⟨"booking", .data, ["booking"]⟩ := by rfl
  have hbetween : ∀ e ∈ profile.entries .data,
      Dict.Between "account.name" ("data." ++ "account.name") e.1 →
        Apart Path.parseDataTarget "account.name" e.1 := by
    intro e he hlies
    rcases List.mem_cons.mp he with rfl | he
    · exact absurd hlies (by decide)
    rcases List.mem_cons.mp he with rfl | he
    · exact absurd hlies (by decide)
    obtain rfl := List.mem_singleton.mp he
    intro p q hp hq
    obtain rfl := Except.ok.inj (hname.symm.trans hp)
    obtain rfl := Except.ok.inj (hbooking.symm.trans hq)
    decide +kernel
  refine ⟨hsorted, hroot, hfresh, hbetween, ?_⟩
  refine renamed_call hsorted hroot hfresh fun value _ e he hlies => ?_
  obtain ⟨entry, hentry, -⟩ := mem_mappedValues.mp he
  exact hbetween (e.1, entry) hentry hlies

end ApiMapping
end PageFlow
