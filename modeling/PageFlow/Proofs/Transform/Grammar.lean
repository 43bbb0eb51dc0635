/-
# The grammar of transforms

A transform is a call: the name of a function and behind it, in parentheses, the dollar
sign that stands for the value. A name is an identifier, and there may be blanks around
each part. A text that is a call is read as its name, and every other text is an error
that carries it. So a transform that is a call fails only if there is no function of its
name, and if there is one it is applied to every value.

Key definitions: `Transform.IsIdentifier`, `Transform.Calls`.
Key theorems: `Transform.nameOf?_eq_some_iff`, `Transform.parse_eq_ok_iff`,
`Transform.apply_eq_ok_iff`, `Transform.called_apply`.
-/
import PageFlow.Proofs.Outcome
import PageFlow.Proofs.Text.Split
import PageFlow.Transform

namespace PageFlow
namespace Transform

open Text (AreBlanks StartsBare EndsBare)

/-! ### The grammar -/

/-- A text is an identifier: an ASCII letter or an underscore, and then ASCII letters,
digits and underscores. -/
def IsIdentifier (name : String) : Prop :=
  ∃ first rest, name.toList = first :: rest ∧ (first.isAlpha = true ∨ first = '_') ∧
    ∀ c ∈ rest, c.isAlphanum = true ∨ c = '_'

/-- A text is blank; it may be empty. -/
def IsBlankText (s : String) : Prop := AreBlanks s.toList

/-- A text calls a function by its name. -/
inductive Calls (name : String) : String → Prop
  | call {lead gap before after tail : String} (hname : IsIdentifier name)
      (hlead : IsBlankText lead) (hgap : IsBlankText gap) (hbefore : IsBlankText before)
      (hafter : IsBlankText after) (htail : IsBlankText tail) :
    Calls name (lead ++ name ++ gap ++ "(" ++ before ++ "$" ++ after ++ ")" ++ tail)

/-! ### Names -/

theorem isName_iff {name : String} : isName name.toList = true ↔ IsIdentifier name := by
  unfold IsIdentifier
  cases name.toList with
  | nil => simp [isName]
  | cons first rest =>
    have hname : isName (first :: rest) = true ↔ (first.isAlpha = true ∨ first = '_') ∧
        ∀ c ∈ rest, c.isAlphanum = true ∨ c = '_' := by
      simp [isName, startsName, inName]
    rw [hname]
    constructor
    · exact fun h => ⟨first, rest, rfl, h⟩
    · rintro ⟨_, _, ⟨rfl, rfl⟩, h⟩
      exact h

theorem not_isBlank_of_inName {c : Char} (h : inName c = true) :
    Text.isBlank c = false ∧ c ≠ '(' := by
  simp only [inName, Bool.or_eq_true, beq_iff_eq] at h
  rcases h with h | rfl
  · refine ⟨Text.isBlank_of_isAlphanum h, ?_⟩
    rintro rfl
    exact absurd h (by decide)
  · decide

theorem inName_of_isName {name : List Char} (h : isName name = true) :
    ∀ c ∈ name, inName c = true := by
  cases name with
  | nil => simp
  | cons first rest =>
    obtain ⟨hfirst, hrest⟩ : startsName first = true ∧ ∀ c ∈ rest, inName c = true := by
      simpa [isName] using h
    have hin : inName first = true := by
      simp only [startsName, inName, Char.isAlphanum, Bool.or_eq_true] at hfirst ⊢
      exact hfirst.imp_left .inl
    exact List.forall_mem_cons.mpr ⟨hin, hrest⟩

section
variable {name : List Char} (h : isName name = true)
include h

theorem startsBare_of_isName : StartsBare name := by
  intro c hc
  exact (not_isBlank_of_inName (inName_of_isName h c (List.mem_of_head? hc))).1

theorem endsBare_of_isName : EndsBare name := by
  intro c hc
  exact (not_isBlank_of_inName (inName_of_isName h c (List.mem_of_getLast? hc))).1

theorem notMem_of_isName {gap : List Char} (hgap : AreBlanks gap) : '(' ∉ name ++ gap := by
  intro hmem
  rcases List.mem_append.mp hmem with hmem | hmem
  · exact (not_isBlank_of_inName (inName_of_isName h _ hmem)).2 rfl
  · exact absurd (hgap _ hmem) (by decide)

end

/-! ### Reading a name -/

theorem dropLast?_eq_some_iff {last : Char} {cs front : List Char} :
    dropLast? last cs = some front ↔ cs = front ++ [last] := by
  unfold dropLast?
  by_cases hlast : cs.getLast? = some last
  · obtain ⟨others, rfl⟩ := List.getLast?_eq_some_iff.mp hlast
    simp
  · rw [if_neg hlast]
    refine iff_of_false (by simp) ?_
    rintro rfl
    simp at hlast

theorem nameOf?_eq_some_iff_parts {cs name : List Char} :
    nameOf? cs = some name ↔ ∃ front argument,
      Text.splitOnce '(' (Text.trim cs) = some (front, argument ++ [')']) ∧
      Text.trim argument = ['$'] ∧ Text.trimRight front = name ∧ isName name = true := by
  simp only [nameOf?, Option.bind_eq_bind, Option.bind_eq_some_iff, dropLast?_eq_some_iff,
    Option.ite_none_right_eq_some, Option.some.injEq, Prod.exists]
  constructor
  · rintro ⟨front, _, hsplit, argument, rfl, ⟨hargument, hname⟩, rfl⟩
    exact ⟨front, argument, hsplit, hargument, rfl, hname⟩
  · rintro ⟨front, argument, hsplit, hargument, rfl, hname⟩
    exact ⟨front, _, hsplit, argument, rfl, ⟨hargument, hname⟩, rfl⟩

/-- **A name is read from the calls of it.** -/
theorem nameOf?_eq_some_iff {cs name : List Char} :
    nameOf? cs = some name ↔ isName name = true ∧ ∃ lead gap before after tail,
      AreBlanks lead ∧ AreBlanks gap ∧ AreBlanks before ∧ AreBlanks after ∧ AreBlanks tail ∧
      cs = lead ++ (name ++ gap ++ '(' :: (before ++ ['$'] ++ after ++ [')'])) ++ tail := by
  rw [nameOf?_eq_some_iff_parts]
  constructor
  · rintro ⟨front, argument, hsplit, hargument, hfront, hname⟩
    obtain ⟨htrim, -⟩ := Text.splitOnce_eq_some_iff.mp hsplit
    obtain ⟨-, lead, tail, hlead, htail, hcs⟩ := Text.trim_eq_iff.mp htrim
    obtain ⟨-, gap, hgap, rfl⟩ := Text.trimRight_eq_iff.mp hfront
    obtain ⟨-, before, after, hbefore, hafter, rfl⟩ := Text.trim_eq_iff.mp hargument
    exact ⟨hname, lead, gap, before, after, tail, hlead, hgap, hbefore, hafter, htail, hcs⟩
  · rintro ⟨hname, lead, gap, before, after, tail, hlead, hgap, hbefore, hafter, htail, rfl⟩
    refine ⟨name ++ gap, before ++ ['$'] ++ after, ?_, ?_, ?_, hname⟩
    · rw [Text.splitOnce_eq_some_iff, Text.trim_eq_iff]
      refine ⟨⟨⟨?_, ?_⟩, lead, tail, hlead, htail, rfl⟩, notMem_of_isName hname hgap⟩
      · have hne : name ≠ [] := by
          rintro rfl
          cases hname
        rw [List.append_assoc]
        exact (startsBare_of_isName hname).append hne _
      · rw [← List.cons_append, ← List.append_assoc]
        exact Text.endsBare_concat (by decide) _
    · have hdollar : Text.isBlank '$' = false := by decide
      have hstarts : StartsBare ['$'] := by simpa [StartsBare] using hdollar
      have hends : EndsBare ['$'] := Text.endsBare_concat hdollar []
      exact Text.trim_eq_iff.mpr ⟨⟨hstarts, hends⟩, before, after, hbefore, hafter, rfl⟩
    · exact Text.trimRight_eq_iff.mpr ⟨endsBare_of_isName hname, gap, hgap, rfl⟩

/-! ### Reading a transform -/

theorem calls_iff {name expression : String} :
    Calls name expression ↔ nameOf? expression.toList = some name.toList := by
  rw [nameOf?_eq_some_iff, isName_iff]
  constructor
  · rintro ⟨hname, hlead, hgap, hbefore, hafter, htail⟩
    refine ⟨hname, _, _, _, _, _, hlead, hgap, hbefore, hafter, htail, ?_⟩
    simp
  · rintro ⟨hname, lead, gap, before, after, tail, hlead, hgap, hbefore, hafter, htail, hcs⟩
    have hexpression : expression = String.ofList lead ++ name ++ String.ofList gap ++ "(" ++
        String.ofList before ++ "$" ++ String.ofList after ++ ")" ++ String.ofList tail := by
      apply String.toList_injective
      rw [hcs]
      simp
    have hblank : ∀ {cs : List Char}, AreBlanks cs → IsBlankText (String.ofList cs) := by
      intro cs h
      rwa [IsBlankText, String.toList_ofList]
    rw [hexpression]
    exact .call hname (hblank hlead) (hblank hgap) (hblank hbefore) (hblank hafter) (hblank htail)

/-- **A transform is read as the name that it calls.** -/
theorem parse_eq_ok_iff {expression name : String} :
    parse expression = .ok name ↔ Calls name expression := by
  rw [calls_iff, parse]
  cases nameOf? expression.toList with
  | none => simp
  | some cs =>
    simp only [Except.ok.injEq, Option.some.injEq]
    constructor
    · rintro rfl
      exact String.toList_ofList.symm
    · rintro rfl
      exact String.ofList_toList

/-- What calls no name is an error that carries the text. -/
theorem parse_eq_error_iff {expression : String} {e : TransformError} :
    parse expression = .error e ↔ (∀ name, ¬ Calls name expression) ∧ e = .badForm expression := by
  have herror : ∀ e, parse expression = .error e → e = .badForm expression := by
    intro e h
    unfold parse at h
    split at h
    · cases h
    · exact (Except.error.inj h).symm
  constructor
  · intro h
    refine ⟨fun name hcall => ?_, herror e h⟩
    rw [parse_eq_ok_iff.mpr hcall] at h
    cases h
  · rintro ⟨hnone, rfl⟩
    cases hparse : parse expression with
    | ok name => exact absurd (parse_eq_ok_iff.mp hparse) (hnone name)
    | error e => rw [herror e hparse]

/-! ### Applying a transform -/

theorem nodup_functions : (functions.map (·.1)).Nodup := by decide

/-- A function is found by its name, since no two have one name. -/
theorem function?_eq_some_iff {name : String} {f : Json → Json} :
    function? name = some f ↔ (name, f) ∈ functions := by
  have hfind : ∀ {table : List (String × (Json → Json))}, (table.map (·.1)).Nodup →
      ((table.find? fun entry => entry.1 == name).map (·.2) = some f ↔ (name, f) ∈ table) := by
    intro table hnodup
    induction table with
    | nil => simp
    | cons entry rest ih =>
      obtain ⟨hnot, hrest⟩ := List.nodup_cons.mp hnodup
      by_cases hname : entry.1 = name
      · have hother : (name, f) ∉ rest := by
          intro hmem
          exact hnot (List.mem_map.mpr ⟨_, hmem, hname.symm⟩)
        rw [List.find?_cons_of_pos (by simpa using hname)]
        simp [hother, Prod.ext_iff, hname, eq_comm]
      · have hother : (name, f) ≠ entry := fun heq => hname (heq ▸ rfl)
        rw [List.find?_cons_of_neg (by simpa using hname), ih hrest]
        simp [hother]
  exact hfind nodup_functions

theorem function?_eq_none_iff {name : String} :
    function? name = none ↔ name ∉ functions.map (·.1) := by
  simp only [function?, Option.map_eq_none_iff, List.find?_eq_none, beq_iff_eq, List.mem_map,
    not_exists, not_and]

variable {expression : String} {value : Json}

theorem apply_eq_ok_iff {result : Json} : apply expression value = .ok result ↔
    ∃ name f, Calls name expression ∧ (name, f) ∈ functions ∧ result = f value := by
  simp only [← parse_eq_ok_iff, ← function?_eq_some_iff, apply, compile]
  cases parse expression with
  | error e => simp [Except.map]
  | ok name =>
    dsimp only
    cases hf : function? name <;> simp [Except.map, hf, eq_comm]

theorem apply_eq_error_iff {e : TransformError} : apply expression value = .error e ↔
    parse expression = .error e ∨
      ∃ name, Calls name expression ∧ name ∉ functions.map (·.1) ∧ e = .unknownFunction name := by
  simp only [← parse_eq_ok_iff, ← function?_eq_none_iff, apply, compile]
  cases parse expression with
  | error e => simp [Except.map]
  | ok name =>
    dsimp only
    cases hf : function? name <;> simp [Except.map, hf, eq_comm]

/-- **Transforms are read by their grammar, and applied by name.** A text is read as a name
exactly when it calls that, and any other text is an error that carries it. What calls a name
that no function has is applied to no value, and tells the name; what calls a function is
applied to every value, and gives what the function does. -/
theorem called_apply (expression : String) :
    (∀ name, parse expression = .ok name ↔ Calls name expression) ∧
    (∀ e, parse expression = .error e ↔
      (∀ name, ¬ Calls name expression) ∧ e = .badForm expression) ∧
    (∀ value, apply expression value = .error (.badForm expression) ↔
      ∀ name, ¬ Calls name expression) ∧
    (∀ value name, apply expression value = .error (.unknownFunction name) ↔
      Calls name expression ∧ name ∉ functions.map (·.1)) ∧
    ∀ value result, apply expression value = .ok result ↔
      ∃ name f, Calls name expression ∧ (name, f) ∈ functions ∧ result = f value := by
  refine ⟨fun name => parse_eq_ok_iff, fun e => parse_eq_error_iff, fun value => ?_,
    fun value name => ?_, fun value result => apply_eq_ok_iff⟩
  · simp [apply_eq_error_iff, parse_eq_error_iff]
  · simp [apply_eq_error_iff, parse_eq_error_iff]

/-- Blanks may stand around each part of a call, line breaks too, but not in a name. -/
example : parse "  lower ( $\n) " = .ok "lower" ∧
    parse "up per($)" = .error (.badForm "up per($)") := by
  decide

end Transform
end PageFlow
