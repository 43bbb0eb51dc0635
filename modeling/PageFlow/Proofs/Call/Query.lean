/-
# Queries that are read back

The query of an address is read as queries are: it is split into its parameters, and each
of them is cut at its first equals sign and decoded. No separator is written unescaped
within a parameter, so what is read is what was built, whatever the texts are. So no two
queries have one address at an endpoint.

Key definitions: `readParameter?`, `readQuery?`, `queryText`.
Key theorems: `readParameter?_queryPart`, `readQuery?_queryText`, `buildUrl_inj`,
`query_of_buildUrl`.
-/
import PageFlow.Call.Request
import PageFlow.Proofs.Dict
import PageFlow.Proofs.Text.Bytes
import PageFlow.Proofs.Text.Split

namespace PageFlow

/-- A parameter is cut at its first equals sign; both sides are percent encoded. -/
def readParameter? (part : List Char) : Option (String × String) := do
  let (name, value) ← Text.splitOnce '=' part
  let name ← Text.percentDecode? name
  let value ← Text.percentDecode? value
  return (String.ofList name, String.ofList value)

/-- The parameters of a query, which are told apart by ampersands. -/
def readQuery? (text : List Char) : Option (List (String × String)) :=
  (Text.splitAt '&' text).mapM readParameter?

/-! ### One parameter -/

/-- **A parameter is read back.** -/
theorem readParameter?_queryPart (parameter : String × String) :
    readParameter? (queryPart parameter) = some parameter := by
  have hsplit : Text.splitOnce '=' (queryPart parameter) =
      some (Text.percentEncode parameter.1.toList, Text.percentEncode parameter.2.toList) :=
    Text.splitOnce_eq_some_iff.mpr ⟨rfl, Text.notMem_percentEncode (by decide) _⟩
  simp [readParameter?, hsplit, Text.percentDecode?_percentEncode]

/-- A character that is not written in encoded texts is in no parameter, unless it is the one
between the name and the value. -/
theorem notMem_of_mem_map_queryPart {c : Char} (h : Text.isPartChar c = false) (hne : c ≠ '=')
    {query : Dict String} : ∀ part ∈ query.map queryPart, c ∉ part := by
  intro part hpart
  obtain ⟨parameter, -, rfl⟩ := List.mem_map.mp hpart
  simp [queryPart, Text.notMem_percentEncode h, hne]

/-! ### A query -/

/-- The text of a query, behind the character that starts it. -/
def queryText (query : Dict String) : List Char := Text.joinWith '&' (query.map queryPart)

/-- **A query is read back.** -/
theorem readQuery?_queryText {query : Dict String} (hne : query ≠ []) :
    readQuery? (queryText query) = some query := by
  have hparts : ∀ part ∈ query.map queryPart, '&' ∉ part :=
    notMem_of_mem_map_queryPart (by decide) (by decide)
  have hread : readParameter? ∘ queryPart = pure := funext readParameter?_queryPart
  rw [readQuery?, queryText, Text.splitAt_joinWith (mt List.map_eq_nil_iff.mp hne) hparts,
    List.mapM_map, hread, List.mapM_pure, List.map_id']
  rfl

theorem hash_notMem_queryText (query : Dict String) : '#' ∉ queryText query := by
  intro hmem
  rcases Text.mem_joinWith hmem with h | ⟨part, hpart, hmem⟩
  · exact absurd h (by decide)
  · exact notMem_of_mem_map_queryPart (by decide) (by decide) part hpart hmem

/-! ### An address -/

variable {endpoint : String} {query other : Dict String}

theorem toList_buildUrl (hne : query ≠ []) : (buildUrl endpoint query).toList =
    endpoint.toList ++ (if '?' ∈ endpoint.toList then '&' else '?') :: queryText query := by
  have hquery : query.isEmpty = false := by simpa using hne
  simp [buildUrl, hquery, queryText]

theorem buildUrl_ne_endpoint (hne : query ≠ []) : buildUrl endpoint query ≠ endpoint := by
  intro h
  have hchars := congrArg String.toList h
  rw [toList_buildUrl hne, List.append_right_eq_self] at hchars
  cases hchars

/-- At an endpoint, queries are given by their addresses. -/
theorem buildUrl_inj (h : buildUrl endpoint other = buildUrl endpoint query) : other = query := by
  by_cases hquery : query = []
  · subst hquery
    by_contra hother
    exact buildUrl_ne_endpoint hother h
  by_cases hother : other = []
  · subst hother
    exact absurd h.symm (buildUrl_ne_endpoint hquery)
  have hchars := congrArg String.toList h
  rw [toList_buildUrl hother, toList_buildUrl hquery] at hchars
  have htext : queryText other = queryText query :=
    (List.cons.inj (List.append_cancel_left hchars)).2
  have hread : some other = some query := by
    rw [← readQuery?_queryText hother, htext, readQuery?_queryText hquery]
  exact Option.some.inj hread

/-- **The query of an address is what it was built from.** Behind the endpoint and the
character that starts or continues a query, the parameters are read in the order of their
names: all entries of the query and no others. No fragment starts in them, and no other
query has this address at the endpoint. -/
theorem query_of_buildUrl (hsorted : Dict.Sorted query) (hne : query ≠ []) :
    ∃ text pairs,
      (buildUrl endpoint query).toList =
        endpoint.toList ++ (if '?' ∈ endpoint.toList then '&' else '?') :: text ∧
      readQuery? text = some pairs ∧ Dict.Sorted pairs ∧
      (∀ name value, (name, value) ∈ pairs ↔ Dict.find? name query = some value) ∧
      '#' ∉ text ∧ ∀ other, buildUrl endpoint other = buildUrl endpoint query → other = query := by
  refine ⟨queryText query, query, toList_buildUrl hne, readQuery?_queryText hne, hsorted,
    fun name value => ⟨?_, ?_⟩, hash_notMem_queryText query, fun other => buildUrl_inj⟩
  · exact Dict.find?_of_mem hsorted
  · exact Dict.mem_of_find?

/-- Parameters with separators, an empty name and a name that is not ASCII. -/
def awkwardQuery : Dict String := [("", "="), ("a&b", "x=y#z"), ("é", "100%")]

/-- At an endpoint that has parameters already. -/
theorem query_of_buildUrl_awkward :
    (Dict.Sorted awkwardQuery ∧ awkwardQuery ≠ []) ∧ ∃ text pairs,
      (buildUrl "/search?v=2" awkwardQuery).toList =
        "/search?v=2".toList ++ (if '?' ∈ "/search?v=2".toList then '&' else '?') :: text ∧
      readQuery? text = some pairs ∧ Dict.Sorted pairs ∧
      (∀ name value,
        (name, value) ∈ pairs ↔ Dict.find? name awkwardQuery = some value) ∧
      '#' ∉ text ∧ ∀ other,
        buildUrl "/search?v=2" other = buildUrl "/search?v=2" awkwardQuery →
          other = awkwardQuery := by
  have hsorted : Dict.Sorted awkwardQuery := by decide
  have hne : awkwardQuery ≠ [] := List.cons_ne_nil _ _
  exact ⟨⟨hsorted, hne⟩, query_of_buildUrl hsorted hne⟩

example : buildUrl "/search?v=2" awkwardQuery =
    "/search?v=2&=%3D&a%26b=x%3Dy%23z&%C3%A9=100%25" := by decide

end PageFlow
