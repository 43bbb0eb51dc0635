/-
# The headers a request is sent with

Headers are put one after the other: those of the settings, the token, and those of the
request. A header that is put takes the place of those of its name, however they are spelled.
So no name stands twice in the list, and what stands under a name is the last header of that
name: that of the request if it has one, or else the token, or else that of the settings. Of
several spellings within a dictionary the last one is the greatest in the order of bytes.

Key definitions: `isNamed`, `HasName`, `Distinct`, `lastNamed?`, `IsLastSpelling`,
`HttpSettings.Sends`, `HttpSettings.Layered`.
Key theorems: `distinct_foldl_putHeader`, `filter_foldl_putHeader`, `isLastSpelling_iff`,
`HttpSettings.filter_mergedHeaders`, `HttpSettings.layered_mergedHeaders`.
-/
import Mathlib.Data.List.Induction
import PageFlow.Proofs.Dict
import PageFlow.Proofs.Text.Bytes
import PageFlow.Transport.Http

namespace PageFlow

/-! ### Names -/

theorem sameName_iff {a b : String} : sameName a b = true ↔ asciiLower a = asciiLower b := by
  simp [sameName]

theorem sameName_comm (a b : String) : sameName a b = sameName b a :=
  Bool.eq_iff_iff.mpr (by rw [sameName_iff, sameName_iff, eq_comm])

theorem sameName_congr {a b : String} (h : sameName a b = true) (c : String) :
    sameName a c = sameName b c := by
  rw [sameName, sameName, sameName_iff.mp h]

/-- Whether a header is of a name, however it is spelled. -/
def isNamed (name : String) (header : String × String) : Bool := sameName header.1 name

/-- Some header is of a name. -/
def HasName (name : String) (headers : List (String × String)) : Prop :=
  ∃ header ∈ headers, isNamed name header = true

/-! ### Putting headers -/

/-- No name stands twice in a list, whatever its spellings. -/
def Distinct (headers : List (String × String)) : Prop :=
  headers.Pairwise fun a b => sameName a.1 b.1 = false

theorem distinct_putHeader {headers : List (String × String)} (h : Distinct headers)
    (header : String × String) : Distinct (putHeader headers header) := by
  refine List.pairwise_append.mpr ⟨h.filter _, List.pairwise_singleton _ _, ?_⟩
  intro a ha b hb
  obtain rfl := List.mem_singleton.mp hb
  simpa using (List.mem_filter.mp ha).2

theorem distinct_foldl_putHeader (headers : List (String × String)) :
    ∀ {start : List (String × String)}, Distinct start →
      Distinct (headers.foldl putHeader start) := by
  induction headers with
  | nil => exact id
  | cons header rest ih => exact fun h => ih (distinct_putHeader h header)

/-- The last header of a name. -/
def lastNamed? (name : String) (headers : List (String × String)) : Option (String × String) :=
  headers.findRev? (isNamed name)

theorem lastNamed?_append (name : String) (front back : List (String × String)) :
    lastNamed? name (front ++ back) = (lastNamed? name back).or (lastNamed? name front) := by
  simp only [lastNamed?, List.findRev?_eq_find?_reverse, List.reverse_append, List.find?_append]

theorem lastNamed?_singleton (name : String) (header : String × String) :
    lastNamed? name [header] = if isNamed name header then some header else none := by
  by_cases hnamed : isNamed name header = true <;> simp [lastNamed?, List.findRev?, hnamed]

theorem isSome_lastNamed? {name : String} {headers : List (String × String)} :
    (lastNamed? name headers).isSome ↔ HasName name headers := by
  simp [lastNamed?, List.findRev?_eq_find?_reverse, HasName]

theorem lastNamed?_eq_none_iff {name : String} {headers : List (String × String)} :
    lastNamed? name headers = none ↔ ¬HasName name headers := by
  rw [← isSome_lastNamed?, Option.not_isSome_iff_eq_none]

/-- A header that is put is the only one of its name; under other names nothing changes. -/
theorem filter_putHeader (name : String) (headers : List (String × String))
    (header : String × String) : (putHeader headers header).filter (isNamed name) =
      if isNamed name header then [header] else headers.filter (isNamed name) := by
  -- What is of the name goes if and only if the new header is of the name.
  have hgoes : ∀ other ∈ headers, (isNamed name other && !sameName other.1 header.1) =
      (isNamed name other && !isNamed name header) := by
    intro other _
    cases hother : isNamed name other with
    | false => rfl
    | true => rw [sameName_congr hother, sameName_comm, isNamed]
  rw [putHeader, List.filter_append, List.filter_filter, List.filter_congr hgoes]
  by_cases hnamed : isNamed name header = true
  · simp [hnamed]
  · simp [hnamed]

/-- **Of the headers that are put, the last one of a name stays.** -/
theorem filter_foldl_putHeader (name : String) (headers : List (String × String)) :
    (headers.foldl putHeader []).filter (isNamed name) = (lastNamed? name headers).toList := by
  induction headers using List.reverseRecOn with
  | nil => rfl
  | append_singleton headers header ih =>
    rw [List.foldl_concat, filter_putHeader, ih, lastNamed?_append, lastNamed?_singleton]
    by_cases hnamed : isNamed name header = true
    · simp [hnamed]
    · simp [hnamed]

/-! ### Spellings of a name -/

/-- Of the headers of a name in a dictionary, the one whose spelling of it comes last in the
order of bytes. -/
structure IsLastSpelling (layer : Dict String) (name : String) (header : String × String) :
    Prop where
  mem : header ∈ layer
  named : isNamed name header = true
  last : ∀ other ∈ layer, isNamed name other = true → other ≠ header →
    Text.utf8Bytes other.1.toList < Text.utf8Bytes header.1.toList

theorem IsLastSpelling.unique {layer : Dict String} {name : String} {a b : String × String}
    (ha : IsLastSpelling layer name a) (hb : IsLastSpelling layer name b) : a = b := by
  by_contra hne
  have hab := hb.last a ha.mem ha.named hne
  have hba := ha.last b hb.mem hb.named (Ne.symm hne)
  exact List.lt_irrefl _ (List.lt_trans hab hba)

theorem isLastSpelling_of_lastNamed? {layer : Dict String} (hs : Dict.Sorted layer)
    {name : String} {header : String × String} (h : lastNamed? name layer = some header) :
    IsLastSpelling layer name header := by
  rw [lastNamed?, List.findRev?_eq_find?_reverse, List.find?_eq_some_iff_append] at h
  obtain ⟨hnamed, back, front, hsplit, hback⟩ := h
  have hlayer : layer = front.reverse ++ header :: back.reverse := by
    rw [← List.reverse_reverse layer, hsplit]
    simp
  subst hlayer
  refine ⟨List.mem_append_right _ List.mem_cons_self, hnamed, fun other hmem hother hne => ?_⟩
  rcases List.mem_append.mp hmem with hfront | hrest
  · exact Text.utf8Bytes_lt_iff.mpr (hs.lt_of_split.1 other hfront)
  · -- Behind the header no other is of the name.
    have hmem := (List.mem_cons.mp hrest).resolve_left hne
    simpa [hother] using hback other (List.mem_reverse.mp hmem)

/-- **The last header of a name is the one with the last spelling.** -/
theorem isLastSpelling_iff {layer : Dict String} (hs : Dict.Sorted layer) {name : String}
    {header : String × String} :
    IsLastSpelling layer name header ↔ lastNamed? name layer = some header := by
  refine ⟨fun h => ?_, isLastSpelling_of_lastNamed? hs⟩
  obtain ⟨found, hfound⟩ := Option.isSome_iff_exists.mp
    (isSome_lastNamed?.mpr ⟨header, h.mem, h.named⟩)
  rw [hfound, (isLastSpelling_of_lastNamed? hs hfound).unique h]

/-! ### The three layers -/

namespace HttpSettings

variable {settings : HttpSettings} {own : Dict String} {name : String}
  {header : String × String}

/-- The header that a request with headers of its own is sent with under a name. -/
inductive Sends (settings : HttpSettings) (own : Dict String) (name : String) :
    String × String → Prop
  /-- A header of the request. -/
  | own {header : String × String} (h : IsLastSpelling own name header) :
      Sends settings own name header
  /-- The token, where the request does not say how it is authorized. -/
  | token {token : String} (hown : ¬HasName name own) (hname : sameName "authorization" name = true)
      (htoken : settings.authToken = some token) :
      Sends settings own name ("authorization", "Bearer " ++ token)
  /-- A header of the settings, where neither has the name. -/
  | configured {header : String × String} (hown : ¬HasName name own)
      (htoken : ¬(settings.authToken.isSome ∧ sameName "authorization" name = true))
      (h : IsLastSpelling settings.headers name header) : Sends settings own name header

/-- The headers of a request come from three layers, the request itself before the token and
the token before the settings. -/
structure Layered (settings : HttpSettings) (own : Dict String)
    (merged : List (String × String)) : Prop where
  /-- No name stands twice. -/
  distinct : Distinct merged
  /-- The names are those of the three layers. -/
  hasName_iff : ∀ name, HasName name merged ↔ HasName name own ∨
    (settings.authToken.isSome ∧ sameName "authorization" name = true) ∨
      HasName name settings.headers
  /-- What stands under a name comes from the first layer that has the name. -/
  mem_iff : ∀ name header, header ∈ merged ∧ isNamed name header = true ↔
    settings.Sends own name header
  /-- A header of the request is the only one of its name, whatever the other layers have. -/
  overrides : ∀ name header, IsLastSpelling own name header →
    merged.filter (isNamed name) = [header]

/-- The header of the token, if there is one. -/
def tokenLayer (settings : HttpSettings) : List (String × String) :=
  (settings.authToken.map tokenHeader).toList

theorem mem_tokenLayer : header ∈ settings.tokenLayer ↔
    ∃ token, settings.authToken = some token ∧ header = ("authorization", "Bearer " ++ token) := by
  rw [tokenLayer]
  cases settings.authToken <;> simp [tokenHeader]

theorem hasName_tokenLayer : HasName name settings.tokenLayer ↔
    settings.authToken.isSome ∧ sameName "authorization" name = true := by
  rw [tokenLayer]
  cases settings.authToken <;> simp [HasName, isNamed, tokenHeader]

theorem lastNamed?_tokenLayer : lastNamed? name settings.tokenLayer = some header ↔
    header ∈ settings.tokenLayer ∧ isNamed name header = true := by
  rw [tokenLayer]
  cases settings.authToken with
  | none => simp [lastNamed?]
  | some token =>
    rw [Option.map_some, Option.toList_some, lastNamed?_singleton,
      Option.ite_none_right_eq_some, Option.some.injEq, List.mem_singleton]
    constructor
    · rintro ⟨hnamed, rfl⟩
      exact ⟨rfl, hnamed⟩
    · rintro ⟨rfl, hnamed⟩
      exact ⟨hnamed, rfl⟩

/-- The header under a name, looked for in one layer after the other. -/
def sent? (settings : HttpSettings) (own : Dict String) (name : String) :
    Option (String × String) :=
  (lastNamed? name own).or
    ((lastNamed? name settings.tokenLayer).or (lastNamed? name settings.headers))

/-- **Under a name stands what is found first in the layers, and nothing else.** -/
theorem filter_mergedHeaders (settings : HttpSettings) (own : Dict String) (name : String) :
    (settings.mergedHeaders own).filter (isNamed name) = (settings.sent? own name).toList := by
  rw [mergedHeaders, filter_foldl_putHeader, lastNamed?_append, lastNamed?_append, sent?,
    tokenLayer]

theorem mem_mergedHeaders : header ∈ settings.mergedHeaders own ∧ isNamed name header = true ↔
    settings.sent? own name = some header := by
  rw [← List.mem_filter, filter_mergedHeaders, Option.mem_toList]

theorem isSome_sent? : (settings.sent? own name).isSome ↔ HasName name own ∨
    (settings.authToken.isSome ∧ sameName "authorization" name = true) ∨
      HasName name settings.headers := by
  rw [sent?, Option.isSome_or, Option.isSome_or, Bool.or_eq_true, Bool.or_eq_true,
    isSome_lastNamed?, isSome_lastNamed?, isSome_lastNamed?, hasName_tokenLayer]

theorem sent?_eq_some_iff (hsettings : Dict.Sorted settings.headers) (hown : Dict.Sorted own) :
    settings.sent? own name = some header ↔ settings.Sends own name header := by
  rw [sent?, Option.or_eq_some_iff, Option.or_eq_some_iff, ← isLastSpelling_iff hown,
    ← isLastSpelling_iff hsettings, lastNamed?_eq_none_iff, lastNamed?_eq_none_iff,
    lastNamed?_tokenLayer, mem_tokenLayer, hasName_tokenLayer]
  constructor
  · rintro (h | ⟨hnot, ⟨⟨token, htoken, rfl⟩, hname⟩ | ⟨hnone, h⟩⟩)
    · exact .own h
    · exact .token hnot hname htoken
    · exact .configured hnot hnone h
  · intro h
    cases h with
    | own h => exact .inl h
    | token hnot hname htoken => exact .inr ⟨hnot, .inl ⟨⟨_, htoken, rfl⟩, hname⟩⟩
    | configured hnot hnone h => exact .inr ⟨hnot, .inr ⟨hnone, h⟩⟩

/-- **A request is sent with each of its names once.** The names are those of the request, of
the token and of the settings, and under each stands what the first of these layers has: of the
request and of the settings the header with the last spelling. So a request decides on its own
authorization and on the type of its content, and neither is sent twice. -/
theorem layered_mergedHeaders (hsettings : Dict.Sorted settings.headers)
    (hown : Dict.Sorted own) : settings.Layered own (settings.mergedHeaders own) where
  distinct := distinct_foldl_putHeader _ List.Pairwise.nil
  hasName_iff name := by
    rw [← isSome_sent?, Option.isSome_iff_exists]
    exact exists_congr fun header => mem_mergedHeaders
  mem_iff name header := mem_mergedHeaders.trans (sent?_eq_some_iff hsettings hown)
  overrides name header h := by
    rw [filter_mergedHeaders, (sent?_eq_some_iff hsettings hown).mpr (.own h)]
    rfl

/-- Settings with a name in two spellings and an authorization besides the token. -/
def spelledSettings : HttpSettings where
  baseUrl := none
  timeoutSecs := none
  headers := [("Authorization", "Basic YTpi"), ("X-Tenant", "a"), ("accept", "*/*"),
    ("x-tenant", "b")]
  authToken := some "secret"

/-- Headers of a request with the type of its content in two spellings. -/
def spelledHeaders : Dict String :=
  [("ACCEPT", "text/csv"), ("CONTENT-TYPE", "text/plain"), ("Content-Type", "text/csv")]

theorem layered_mergedHeaders_spelled :
    (Dict.Sorted spelledSettings.headers ∧ Dict.Sorted spelledHeaders) ∧
      spelledSettings.Layered spelledHeaders (spelledSettings.mergedHeaders spelledHeaders) := by
  have hsettings : Dict.Sorted spelledSettings.headers := by decide
  have hown : Dict.Sorted spelledHeaders := by decide
  exact ⟨⟨hsettings, hown⟩, layered_mergedHeaders hsettings hown⟩

example : spelledSettings.mergedHeaders spelledHeaders =
    [("x-tenant", "b"), ("authorization", "Bearer secret"), ("ACCEPT", "text/csv"),
      ("Content-Type", "text/csv")] := by decide

end HttpSettings
end PageFlow
