/-
# The grammar of paths

A path is the name of a root, and behind it segments, each with a dot in front. A segment is
not empty and has no dot. So the text of a path and its parts determine each other. The
target of a write is a path below its root, or what such a path is behind the name of the
root, unless that starts with the name of a root itself.

Key definitions: `IsSegment`, `Path.spelling`, `Path.firstSegment`, `Path.NamesTarget`.
Key theorems: `Path.parse_eq_ok_iff`, `Path.parse_rooted`, `Path.parseTarget_eq_ok_iff`,
`Path.spelled_parse`.
-/
import PageFlow.Proofs.Path.Target

namespace PageFlow

/-- Whether a text can stand between the dots of a path. -/
def IsSegment (s : String) : Prop := s ≠ "" ∧ '.' ∉ s.toList

instance (s : String) : Decidable (IsSegment s) := inferInstanceAs (Decidable (_ ∧ _))

theorem Root.ofName?_name (root : Root) : ofName? root.name = some root := by
  cases root <;> decide

theorem Root.eq_name_of_ofName? {name : String} {root : Root} (h : ofName? name = some root) :
    name = root.name := by
  have hname : (root.name == name) = true :=
    List.find?_some (p := fun r : Root => r.name == name) h
  exact (beq_iff_eq.mp hname).symm

theorem Root.dot_notMem_name (root : Root) : '.' ∉ root.name.toList := by
  cases root <;> decide

namespace Path

/-- The text of a path: the name of the root and the segments, with dots between them. -/
def spelling (root : Root) (segments : List String) : String :=
  String.ofList (Text.joinWith '.' ((root.name :: segments).map String.toList))

/-- The text in front of the first dot. -/
def firstSegment (raw : String) : String :=
  String.ofList (raw.toList.takeWhile fun c => c ≠ '.')

/-! ### Texts and their parts -/

/-- The parts of a text are its segments: what has no dot, and gives the text when joined. -/
theorem split_eq_iff {raw : String} {parts : List String} :
    Text.split '.' raw = parts ↔ parts ≠ [] ∧ (∀ part ∈ parts, '.' ∉ part.toList) ∧
      raw = String.ofList (Text.joinWith '.' (parts.map String.toList)) := by
  constructor
  · rintro rfl
    have hlists : (Text.split '.' raw).map String.toList = Text.splitAt '.' raw.toList := by
      simp [Text.split, Function.comp_def]
    refine ⟨Text.split_ne_nil '.' raw, fun part hpart => ?_, ?_⟩
    · have hlist : part.toList ∈ Text.splitAt '.' raw.toList := hlists ▸ List.mem_map_of_mem hpart
      exact Text.notMem_of_mem_splitAt hlist
    · rw [hlists, Text.joinWith_splitAt, String.ofList_toList]
  · rintro ⟨hne, hdots, rfl⟩
    have hlists : ∀ list ∈ parts.map String.toList, '.' ∉ list := by
      intro list hlist
      obtain ⟨part, hpart, rfl⟩ := List.mem_map.mp hlist
      exact hdots part hpart
    rw [Text.split, String.toList_ofList, Text.splitAt_joinWith (by simpa using hne) hlists]
    simp

/-! ### Reading -/

theorem parse_eq_ok_iff_split {raw : String} {path : Path} :
    parse raw = .ok path ↔ path.raw = raw ∧
      Text.split '.' raw = path.root.name :: path.segments ∧ ∀ s ∈ path.segments, s ≠ "" := by
  obtain ⟨text, root, segments⟩ := path
  obtain ⟨first, rest, hsplit⟩ := List.exists_cons_of_ne_nil (Text.split_ne_nil '.' raw)
  have hparts : parse raw = .ok ⟨text, root, segments⟩ ↔
      ∃ named, Root.ofName? first = some named ∧
        ofSegments raw named rest = .ok ⟨text, root, segments⟩ := by
    unfold parse
    rw [hsplit]
    split
    · next hempty =>
      subst hempty
      obtain ⟨rfl, rfl⟩ : "" = first ∧ [] = rest := List.cons.inj hsplit
      exact ⟨nofun, fun ⟨named, hnamed, _⟩ => nomatch hnamed⟩
    · dsimp only
      cases Root.ofName? first with
      | none => exact ⟨nofun, fun ⟨named, hnamed, _⟩ => nomatch hnamed⟩
      | some named => simp
  rw [hparts]
  simp only [ofSegments_eq_ok_iff, Path.mk.injEq, hsplit, List.cons.injEq]
  constructor
  · rintro ⟨named, hnamed, ⟨rfl, rfl, rfl⟩, hne⟩
    exact ⟨rfl, ⟨Root.eq_name_of_ofName? hnamed, rfl⟩, hne⟩
  · rintro ⟨rfl, ⟨rfl, rfl⟩, hne⟩
    exact ⟨root, root.ofName?_name, ⟨rfl, rfl, rfl⟩, hne⟩

theorem head?_split (raw : String) : (Text.split '.' raw).head? = some (firstSegment raw) := by
  rw [Text.split, List.head?_map, Text.head?_splitAt]
  rfl

theorem firstSegment_of_parse {raw : String} {path : Path} (h : parse raw = .ok path) :
    firstSegment raw = path.root.name := by
  have hhead := head?_split raw
  rw [(parse_eq_ok_iff_split.mp h).2.1, List.head?_cons] at hhead
  exact (Option.some.inj hhead).symm

/-- **A text is read as the path that it spells.** -/
theorem parse_eq_ok_iff {raw : String} {path : Path} :
    parse raw = .ok path ↔ path.raw = raw ∧ (∀ s ∈ path.segments, IsSegment s) ∧
      raw = spelling path.root path.segments := by
  rw [parse_eq_ok_iff_split, split_eq_iff, List.forall_mem_cons]
  constructor
  · rintro ⟨hraw, ⟨-, ⟨-, hdots⟩, hspelling⟩, hne⟩
    exact ⟨hraw, fun s hs => ⟨hne s hs, hdots s hs⟩, hspelling⟩
  · rintro ⟨hraw, hsegments, hspelling⟩
    exact ⟨hraw, ⟨List.cons_ne_nil _ _, ⟨path.root.dot_notMem_name, fun s hs => (hsegments s hs).2⟩,
      hspelling⟩, fun s hs => (hsegments s hs).1⟩

/-! ### Targets -/

theorem split_rooted (root : Root) (raw : String) :
    Text.split '.' (root.name ++ "." ++ raw) = root.name :: Text.split '.' raw := by
  refine Text.split_of_toList root.dot_notMem_name ?_
  rw [String.toList_append, String.toList_append, List.append_assoc]
  rfl

/-- Behind the name of a root a text is read as the path of its parts below that root. -/
theorem parse_rooted (root : Root) (raw : String) : parse (root.name ++ "." ++ raw) =
    ofSegments (root.name ++ "." ++ raw) root (Text.split '.' raw) := by
  have hne : root.name ++ "." ++ raw ≠ "" := fun h => by
    have hlist := congrArg String.toList h
    simp at hlist
  rw [parse, if_neg hne, split_rooted]
  dsimp only
  rw [Root.ofName?_name]

/-- What starts with the name of a root is a target below that root only, and has segments. -/
theorem parseTarget_of_rooted {root named : Root} {raw : String} {segments : List String}
    {path : Path} (h : Text.split '.' raw = named.name :: segments) :
    parseTarget root raw = .ok path ↔ named = root ∧ segments ≠ [] ∧
      path = ⟨raw, root, segments⟩ ∧ ∀ s ∈ segments, s ≠ "" := by
  have hne : raw ≠ "" := by
    rintro rfl
    have hempty : "" = named.name := (List.cons.inj h).1
    cases named <;> exact absurd hempty (by decide)
  rw [parseTarget, if_neg hne, h]
  dsimp only
  rw [Root.ofName?_name]
  dsimp only
  split
  · next hother => exact ⟨nofun, fun heq => absurd heq.1 hother⟩
  · next hsame =>
    split
    · next hnil => exact ⟨nofun, fun heq => absurd (List.isEmpty_iff.mp hnil) heq.2.1⟩
    · next hsegments =>
      rw [ofSegments_eq_ok_iff]
      have hnonempty : segments ≠ [] := by simpa using hsegments
      exact ⟨fun heq => ⟨Decidable.not_not.mp hsame, hnonempty, heq⟩, fun heq => heq.2.2⟩

theorem parseTarget_of_bare {root : Root} {raw : String} {path : Path}
    (h : ∀ other : Root, firstSegment raw ≠ other.name) :
    parseTarget root raw = .ok path ↔
      path = ⟨raw, root, Text.split '.' raw⟩ ∧ ∀ s ∈ Text.split '.' raw, s ≠ "" := by
  obtain ⟨first, rest, hsplit⟩ := List.exists_cons_of_ne_nil (Text.split_ne_nil '.' raw)
  have hfirst : firstSegment raw = first := by
    have hhead := head?_split raw
    rw [hsplit, List.head?_cons] at hhead
    exact (Option.some.inj hhead).symm
  have hnone : Root.ofName? first = none :=
    Root.ofName?_eq_none fun other hname => h other (hfirst.trans hname.symm)
  rw [parseTarget, hsplit]
  split
  · next hempty =>
    -- The empty text is refused at once, and has an empty part.
    subst hempty
    obtain ⟨rfl, rfl⟩ : "" = first ∧ [] = rest := List.cons.inj hsplit
    exact ⟨nofun, fun heq => absurd rfl (heq.2 "" List.mem_cons_self)⟩
  · dsimp only
    rw [hnone]
    exact ofSegments_eq_ok_iff

/-- The segments of the target that a text names below a root. -/
inductive NamesTarget (root : Root) (raw : String) : List String → Prop
  /-- It is a path below the root. -/
  | rooted {path : Path} (hread : parse raw = .ok path) (hroot : path.root = root)
      (hne : path.segments ≠ []) :
    NamesTarget root raw path.segments
  /-- It does not start with the name of a root, and is such a path behind that of this one. -/
  | bare {path : Path} (hfirst : ∀ other : Root, firstSegment raw ≠ other.name)
      (hread : parse (root.name ++ "." ++ raw) = .ok path) (hroot : path.root = root) :
    NamesTarget root raw path.segments

/-- **A text is read as the target that it names.** -/
theorem parseTarget_eq_ok_iff {root : Root} {raw : String} {path : Path} :
    parseTarget root raw = .ok path ↔
      path.raw = raw ∧ path.root = root ∧ NamesTarget root raw path.segments := by
  constructor
  · intro h
    cases hnamed : Root.ofName? (firstSegment raw) with
    | none =>
      have hfirst : ∀ other : Root, firstSegment raw ≠ other.name := by
        intro other hname
        rw [hname, other.ofName?_name] at hnamed
        exact nomatch hnamed
      obtain ⟨rfl, hne⟩ := (parseTarget_of_bare hfirst).mp h
      have hread : parse (root.name ++ "." ++ raw) =
          .ok ⟨root.name ++ "." ++ raw, root, Text.split '.' raw⟩ :=
        (parse_rooted root raw).trans (ofSegments_eq_ok_iff.mpr ⟨rfl, hne⟩)
      have hnames := NamesTarget.bare hfirst hread rfl
      exact ⟨rfl, rfl, hnames⟩
    | some named =>
      obtain ⟨segments, hsplit⟩ := List.head?_eq_some_iff.mp (head?_split raw)
      rw [Root.eq_name_of_ofName? hnamed] at hsplit
      obtain ⟨rfl, hsegments, rfl, hne⟩ := (parseTarget_of_rooted hsplit).mp h
      have hread : parse raw = .ok ⟨raw, named, segments⟩ :=
        parse_eq_ok_iff_split.mpr ⟨rfl, hsplit, hne⟩
      exact ⟨rfl, rfl, .rooted hread rfl hsegments⟩
  · obtain ⟨text, below, segments⟩ := path
    rintro ⟨rfl, rfl, hnames⟩
    dsimp only at hnames
    cases hnames with
    | @rooted path hread hroot hne =>
      obtain ⟨-, hsplit, hparts⟩ := parse_eq_ok_iff_split.mp hread
      exact (parseTarget_of_rooted hsplit).mpr ⟨hroot, hne, rfl, hparts⟩
    | bare hfirst hread hroot =>
      rw [parse_rooted] at hread
      obtain ⟨rfl, hparts⟩ := ofSegments_eq_ok_iff.mp hread
      exact (parseTarget_of_bare hfirst).mpr ⟨rfl, hparts⟩

/-- **Paths are read by their grammar.** A text can be read as a path exactly when it spells
one, and what is read spells the text; every root with any segments is read from its
spelling. A target of the data, or of the context, is read exactly where a text names one, and
has the segments that it names. -/
theorem spelled_parse (raw : String) :
    ((∃ path, parse raw = .ok path) ↔
        ∃ root segments, (∀ s ∈ segments, IsSegment s) ∧ raw = spelling root segments) ∧
      (∀ path, parse raw = .ok path → path.raw = raw ∧ spelling path.root path.segments = raw) ∧
      (∀ root segments, (∀ s ∈ segments, IsSegment s) →
        parse (spelling root segments) = .ok ⟨spelling root segments, root, segments⟩) ∧
      (∀ path, parseDataTarget raw = .ok path ↔
        path.raw = raw ∧ path.root = .data ∧ NamesTarget .data raw path.segments) ∧
      ∀ path, parseContextTarget raw = .ok path ↔
        path.raw = raw ∧ path.root = .context ∧ NamesTarget .context raw path.segments := by
  have hspelled : ∀ root segments, (∀ s ∈ segments, IsSegment s) →
      parse (spelling root segments) = .ok ⟨spelling root segments, root, segments⟩ :=
    fun root segments h => parse_eq_ok_iff.mpr ⟨rfl, h, rfl⟩
  refine ⟨⟨?_, ?_⟩, ?_, hspelled, fun _ => parseTarget_eq_ok_iff, fun _ => parseTarget_eq_ok_iff⟩
  · rintro ⟨path, h⟩
    exact ⟨path.root, path.segments, (parse_eq_ok_iff.mp h).2⟩
  · rintro ⟨root, segments, h, rfl⟩
    exact ⟨_, hspelled root segments h⟩
  · intro path h
    obtain ⟨hraw, -, hspelling⟩ := parse_eq_ok_iff.mp h
    exact ⟨hraw, hspelling.symm⟩

/-- A path into an item, and a target that only looks like the name of a root. -/
theorem spelled_parse_items :
    parse "data.items.0" = .ok ⟨"data.items.0", .data, ["items", "0"]⟩ ∧
      parseDataTarget "database.name" = .ok ⟨"database.name", .data, ["database", "name"]⟩ := by
  obtain ⟨-, -, hspelled, htarget, -⟩ := spelled_parse "database.name"
  have hfirst : ∀ other : Root, firstSegment "database.name" ≠ other.name := by
    intro other
    cases other <;> decide
  have hread : parse (Root.data.name ++ "." ++ "database.name") =
      .ok ⟨"data.database.name", .data, ["database", "name"]⟩ := by rfl
  have hnames := NamesTarget.bare hfirst hread rfl
  exact ⟨hspelled .data ["items", "0"] (by decide), (htarget _).mpr ⟨rfl, rfl, hnames⟩⟩

end Path
end PageFlow
