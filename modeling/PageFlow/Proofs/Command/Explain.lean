/-
# Explaining what a step left behind

The file that a step writes its trace to and the outcome that it prints both hold the
trace, and both are explained, as the trace is read of its text. But a document that is
nested too deep is refused, and in the file and in the outcome the values stand deeper
than where they came from; and of the payload of an event other numbers may be read
than were printed, which the explanation shows.

Key definitions: `Trace.ExplainedFrom`.
Key theorems: `Trace.WellFormed.ofDocument_json`, `StepOutcome.WellFormed.ofDocument_json`,
`Surroundings.Sound.explained_of_run`.
-/
import PageFlow.Proofs.Command.Step
import PageFlow.Proofs.Document.Printed
import PageFlow.Proofs.Explanation
import PageFlow.Proofs.Trace.Nesting

namespace PageFlow
open Document

/-! ### The trace in a document -/

theorem Document.has_present (entries : List (String × Option Json)) {names : List String}
    (hmap : entries.map (·.1) = names) (hnames : names.Nodup) {key : String}
    {value : Option Json} (hentry : (key, value) ∈ entries) :
    Dict.has key (Dict.ofList (Json.canonicalFields (present entries))) = value.isSome := by
  subst hmap
  rw [Dict.has, Json.find?_ofList_canonicalFields ((keys_present_sublist entries).nodup hnames),
    find?_present hnames _ hentry, Option.isSome_map]

/-- A trace is found in its own document. -/
theorem Trace.WellFormed.ofDocument_json {t : Trace} (h : t.WellFormed) :
    Trace.ofDocument t.json.canonical = .ok t := by
  -- The fields of a trace, beside the one of an outcome that it has not.
  have hhas := has_present [("trace", none), ("startedAt", some (.string t.timing.startedAt)),
    ("durationMs", some (.ofNat t.timing.durationMs)), ("flow", some t.flow.json),
    ("rules", t.rules.map (·.json)), ("api", t.api.map (·.json))] rfl
    (show ["trace", "startedAt", "durationMs", "flow", "rules", "api"].Nodup by decide)
    (List.mem_cons_self ..)
  exact (if_neg (Bool.eq_false_iff.mp hhas)).trans (h.readsBack .value)

/-- A trace is found in the document of its outcome. -/
theorem StepOutcome.WellFormed.ofDocument_json {o : StepOutcome} (h : o.WellFormed) :
    Trace.ofDocument o.json.canonical = .ok o.trace := by
  have hhas := has_present [("nextStateId", some (.string o.nextStateId)),
    ("updatedContext", some o.updatedContext.json), ("updatedData", some (.object o.updatedData)),
    ("uiSchema", some (o.uiSchema.getD .null)), ("trace", some o.trace.json)] rfl
    (show ["nextStateId", "updatedContext", "updatedData", "uiSchema", "trace"].Nodup by decide)
    (List.mem_of_getLast? rfl)
  exact (if_pos hhas).trans (congrArg (Except.map (·.trace)) (h.readsBack .value))

/-! ### Files that are explained -/

section
variable {W : Type} {there : Surroundings (StateM W)} {path text : String} {w w' : W}
  (hread : (there.readFile path).run w = (.ok text, w'))
include hread

theorem Surroundings.run_load {α : Type} (decode : Decoder α) :
    (there.load decode path).run.run w =
      ((parse decode text.toList).mapError fun e => .invalidDocument path e text, w') := by
  have htext : (there.readText path).run.run w = (.ok text, w') :=
    run_bind_of_ok (run_lift_of_run hread)
  rw [load, run_bind_of_ok htext]
  cases parse decode text.toList <;> rfl

theorem run_explainFile {document : Json} {trace : Trace}
    (hparse : parseJson text.toList = .ok document) (htrace : Trace.ofDocument document = .ok trace)
    (format : ExplainFormat) (verbose : Bool) (options : Options) :
    (explainFile path format verbose there options).run.run w =
      (.ok ⟨0, if options.quiet then "" else trace.explain format verbose, ""⟩, w') := by
  have hload := Surroundings.run_load hread decodeJson
  rw [← parseJson, hparse] at hload
  rw [explainFile, run_bind_of_ok hload, htrace]
  rfl

theorem run_explainFile_error {e : DecodeError} (hparse : parseJson text.toList = .error e)
    (format : ExplainFormat) (verbose : Bool) (options : Options) :
    (explainFile path format verbose there options).run.run w =
      (.error (.invalidDocument path e text), w') := by
  have hload := Surroundings.run_load hread decodeJson
  rw [← parseJson, hparse] at hload
  exact run_bind_of_error hload

end

/-- What explaining a text gives that holds the trace in a document. -/
structure Trace.ExplainedFrom (t : Trace) (document : Json) (text : String) : Prop where
  /-- The trace is explained as it is read, unless the document is nested too deep. -/
  shallow : document.nesting ≤ Cursor.depthLimit →
    ∀ {W : Type} (there : Surroundings (StateM W)) (path : String) (format : ExplainFormat)
      (verbose : Bool) (options : Options) {w w' : W},
      (there.readFile path).run w = (.ok text, w') →
        (explainFile path format verbose there options).run.run w =
          (.ok ⟨0, if options.quiet then "" else t.reread.explain format verbose, ""⟩, w')
  /-- A document that is nested too deep is refused. -/
  deep : Cursor.depthLimit < document.nesting →
    ∃ place, ∀ {W : Type} (there : Surroundings (StateM W)) (path : String)
      (format : ExplainFormat) (verbose : Bool) (options : Options) {w w' : W},
      (there.readFile path).run w = (.ok text, w') →
        (explainFile path format verbose there options).run.run w =
          (.error (.invalidDocument path (.atPlace .tooDeep place) text), w')
  /-- The explanation is the one of the trace just if the events are read as they were. -/
  same : ∀ format verbose,
    t.reread.explain format verbose = t.explain format verbose ↔ t.KeepsEvents

/-- A text is explained by the document that is printed in it, with blanks behind it. -/
theorem Trace.explainedFrom_of_pretty {t : Trace} {document : Json} {text : String}
    {blanks : List Char} (htrace : Trace.ofDocument document.reread.canonical = .ok t.reread)
    (hblanks : ∀ c ∈ blanks, Cursor.isBlank c = true)
    (htext : text.toList = document.pretty.toList ++ blanks) : t.ExplainedFrom document text where
  shallow hlimit W there path format verbose options w w' hread := by
    have hparse := (parseJson_pretty document hblanks).1 hlimit
    rw [← htext] at hparse
    exact run_explainFile hread hparse htrace format verbose options
  deep hlimit := by
    obtain ⟨place, hparse⟩ := (parseJson_pretty document hblanks).2 hlimit
    rw [← htext] at hparse
    exact ⟨place, fun there path format verbose options w w' hread =>
      run_explainFile_error hread hparse format verbose options⟩
  same format verbose := t.explain_reread format verbose

theorem Trace.WellFormed.explainedFrom {t : Trace} (h : t.WellFormed) :
    t.ExplainedFrom t.json t.json.pretty := by
  refine Trace.explainedFrom_of_pretty ?_ (List.forall_mem_nil _) (List.append_nil _).symm
  rw [t.reread_json]
  exact h.reread.ofDocument_json

/-- **A saved trace is explained as it was** if the payloads of its events are read as
they were and, as the bodies of its call, are not nested too deep for where they stand. -/
theorem Trace.WellFormed.run_explainFile {t : Trace} (h : t.WellFormed)
    (hpayloads : ∀ rules ∈ t.rules, ∀ e ∈ rules.events, e.reread = e ∧
      ∀ payload ∈ e.payload, payload.nesting ≤ 123)
    (hbodies : ∀ api ∈ t.api, (∀ body ∈ api.request.body, body.nesting ≤ 124) ∧
      ∀ response ∈ api.response, response.body.nesting ≤ 124)
    {W : Type} {there : Surroundings (StateM W)} {path : String} {w w' : W}
    (hread : (there.readFile path).run w = (.ok t.json.pretty, w')) (format : ExplainFormat)
    (verbose : Bool) (options : Options) :
    (explainFile path format verbose there options).run.run w =
      (.ok ⟨0, if options.quiet then "" else t.explain format verbose, ""⟩, w') := by
  have hshallow : t.json.nesting ≤ 123 + 4 := Trace.nesting_json_le.mpr
    ⟨fun rules hrules e he => (hpayloads rules hrules e he).2, hbodies⟩
  have hkeeps : t.KeepsEvents := fun rules hrules e he => (hpayloads rules hrules e he).1
  rw [h.explainedFrom.shallow hshallow there path format verbose options hread,
    (t.explain_reread format verbose).mpr hkeeps]

theorem StepOutcome.WellFormed.explainedFrom {o : StepOutcome} (h : o.WellFormed) :
    o.trace.ExplainedFrom o.json (o.shown .json) := by
  have hblanks : ∀ c ∈ ['\n'], Cursor.isBlank c = true := by simp [Cursor.isBlank]
  refine Trace.explainedFrom_of_pretty ?_ hblanks String.toList_append
  rw [o.reread_json]
  exact h.reread.ofDocument_json

/-- **Every trace that a step saves or prints is explained as it is read**, unless its
document is nested too deep; and as it was just if its events are read as they were. -/
theorem Surroundings.Sound.explained_of_run {W : Type} {here : Surroundings (StateM W)}
    (hhere : here.Sound) {arguments : StepArguments} {settings : Settings} {options : Options}
    {w w' : W} {left : CommandOutcome}
    (h : (arguments.run here settings options).run.run w = (.ok left, w')) :
    ∃ o between, (arguments.take here settings).run.run w = (.ok o, between) ∧
      o.left options = left ∧
      (∀ path ∈ arguments.traceOut,
        ∃ later, (here.readFile path).run w' = (.ok o.trace.json.pretty, later)) ∧
      o.trace.ExplainedFrom o.trace.json o.trace.json.pretty ∧
      o.trace.ExplainedFrom o.json (o.shown .json) := by
  obtain ⟨o, between, htake, hleft, hfile⟩ := hhere.exists_of_run h
  have hwell := (hhere.arises_of_take htake).wellFormed
  exact ⟨o, between, htake, hleft, hfile, hwell.trace.explainedFrom, hwell.explainedFrom⟩

/-! ### Steps in a directory -/

namespace Directory

/-- A bundle of one page, and data. -/
def hall (data : Json) : Directory :=
  let flow : Json := .object [("initialState", .string "hall"),
    ("states", .object [("hall", .object [("uiPageId", .string "hall-page")])])]
  [(["bundle.json"], (Json.object [("flow", flow)]).compact), (["data.json"], data.compact)]

/-- Arrays that stand in each other. -/
def boxes : Nat → Json
  | 0 => .array []
  | n + 1 => .array [boxes n]

/-- A step by the bundle, which saves its trace. -/
def knock : StepArguments where
  bundle := "bundle.json"
  event := "knock"
  state := none
  context := none
  data := some "data.json"
  response := none
  traceOut := some "trace.json"

/-- The options with which an outcome is printed. -/
def printing : Options := ⟨.json, false, none, none⟩

/-- The step up to its saved trace, with something about its outcome. -/
def knocked {α : Type} (tell : StepOutcome → α) : ExceptT CommandError (StateM Directory) α := do
  let o ← knock.take surroundings .default
  knock.save surroundings o
  return tell o

theorem exists_of_knocked {α : Type} {data : Json} {tell : StepOutcome → α} {told : α}
    (h : ((knocked tell).run.run (hall data)).1.toOption = some told) :
    ∃ o between after, (knock.take surroundings .default).run.run (hall data) = (.ok o, between) ∧
      tell o = told ∧ ∀ options, (knock.run surroundings .default options).run.run (hall data) =
        (.ok (o.left options), after) := by
  obtain ⟨after, hknocked⟩ : ∃ after, (knocked tell).run.run (hall data) = (.ok told, after) := by
    rcases hrun : (knocked tell).run.run (hall data) with ⟨_ | x, after⟩
    · rw [hrun] at h
      exact nomatch h
    · rw [hrun] at h
      exact ⟨after, by rw [Option.some.inj h]⟩
  obtain ⟨o, between, htake, hknocked⟩ := exists_of_run_bind hknocked
  obtain ⟨_, saved, hsave, hknocked⟩ := exists_of_run_bind hknocked
  refine ⟨o, between, saved, htake, Except.ok.inj (Prod.mk.inj hknocked).1, fun options => ?_⟩
  rw [StepArguments.run_eq, run_bind_of_ok htake, run_bind_of_ok hsave]
  rfl

theorem run_readFile {d : Directory} {path text : String} (h : d.read path = .ok text) :
    (surroundings.readFile path).run d = (.ok text, d) :=
  Prod.ext h rfl

/-- Both the file and what is printed of a step with a few boxes are explained as the
trace was. -/
theorem explained_knock :
    let data : Json := .object [("box", boxes 2)]
    ∃ o between left after,
      (knock.take surroundings .default).run.run (hall data) = (.ok o, between) ∧
      (knock.run surroundings .default printing).run.run (hall data) = (.ok left, after) ∧
      left.code = 0 ∧ ∀ options format verbose,
        let explained := Except.ok
          ⟨0, if options.quiet then "" else o.trace.explain format verbose, ""⟩
        (∃ later, (explainFile "trace.json" format verbose surroundings options).run.run after =
          (explained, later)) ∧
        ∀ (path : String) (d : Directory), d.read path = .ok left.stdout →
          (explainFile path format verbose surroundings options).run.run d = (explained, d) := by
  intro data
  have hknocked : ((knocked fun o => (o.trace.json.nesting, o.json.nesting, (o.left printing).code,
      o.trace.rules.map fun rules => rules.events.length)).run.run (hall data)).1.toOption =
        some (3, 5, 0, some 0) := by
    decide +kernel
  obtain ⟨o, between, after, htake, htold, hrun⟩ := exists_of_knocked hknocked
  obtain ⟨htrace, houtcome, hcode, hevents⟩ : _ ∧ _ ∧ _ ∧ _ := by
    simpa only [Prod.mk.injEq] using htold
  have hkeeps : o.trace.KeepsEvents := by
    intro rules hrules e he
    rw [hrules] at hevents
    rw [List.eq_nil_of_length_eq_zero (Option.some.inj hevents)] at he
    exact nomatch he
  -- The outcome that is explained is the one that was looked at.
  obtain ⟨same, _, htake', -, hfile, hsaved, hprinted⟩ :=
    sound_surroundings.explained_of_run (hrun printing)
  obtain rfl : same = o := Except.ok.inj (Prod.mk.inj (htake'.symm.trans htake)).1
  obtain ⟨later, hread⟩ := hfile "trace.json" rfl
  refine ⟨same, between, _, after, htake, hrun printing, hcode,
    fun options format verbose => ⟨⟨later, ?_⟩, fun path d hd => ?_⟩⟩
  · rw [hsaved.shallow (by rw [htrace]; decide) surroundings _ format verbose options hread,
      (hsaved.same format verbose).mpr hkeeps]
  · rw [hprinted.shallow (by rw [houtcome]; decide) surroundings _ format verbose options
      (run_readFile hd), (hprinted.same format verbose).mpr hkeeps]

/-- **A printed outcome may be refused**: the data stand in 127 arrays and objects, as
deep as they may to be read, and in the outcome one deeper. -/
theorem not_explained_knock :
    ∃ left after, (knock.run surroundings .default printing).run.run
        (hall (.object [("box", boxes 125)])) = (.ok left, after) ∧ left.code = 0 ∧
      ∀ path format verbose options (d : Directory), d.read path = .ok left.stdout →
        ∃ place, ((explainFile path format verbose surroundings options).run.run d).1 =
          .error (.invalidDocument path (.atPlace .tooDeep place) left.stdout) := by
  have hknocked : ((knocked fun o => (o.json.nesting, (o.left printing).code)).run.run
      (hall (.object [("box", boxes 125)]))).1.toOption = some (128, 0) := by
    decide +kernel
  obtain ⟨o, between, after, htake, htold, hrun⟩ := exists_of_knocked hknocked
  obtain ⟨hnesting, hcode⟩ := Prod.mk.inj htold
  have hwell := (sound_surroundings.arises_of_take htake).wellFormed
  obtain ⟨place, hrefused⟩ := hwell.explainedFrom.deep (by rw [hnesting]; decide)
  refine ⟨_, after, hrun printing, hcode, fun path format verbose options d hd => ⟨place, ?_⟩⟩
  rw [hrefused surroundings path format verbose options (run_readFile hd)]
  rfl

end Directory
end PageFlow
