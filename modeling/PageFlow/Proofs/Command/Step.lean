/-
# What the command of a step leaves behind

A step reads its documents and comes to its outcome before it writes anything. The
documents that it reads are those of an application and of a situation, so an outcome
of a command arises from documents that were read, and what is written of it is well
formed.

Key definitions: `StepArguments.take`, `Surroundings.Sound`.
Key theorems: `StepArguments.run_eq`, `Surroundings.Sound.arises_of_take`,
`Surroundings.Sound.exists_of_run`, `Directory.sound_surroundings`.
-/
import PageFlow.Command
import PageFlow.Proofs.Step.Outcome

namespace PageFlow
open Document

-- Powers are those of the core library, whatever else is imported.
attribute [local instance (2000)] instPowNat

/-! ### Steps in two parts -/

/-- What a step with this outcome leaves behind besides files. -/
def StepOutcome.left (o : StepOutcome) (options : Options) : CommandOutcome :=
  ⟨if o.trace.flow.reason = .error then 1 else 0,
    if options.quiet then "" else o.shown options.output, ""⟩

namespace StepArguments

variable {m : Type → Type} [Monad m] (arguments : StepArguments) (here : Surroundings m)

/-- Takes a step and writes nothing. -/
def take (settings : Settings) : ExceptT CommandError m StepOutcome := do
  let bundle ← here.load decodeBundle arguments.bundle
  if !bundle.problems.isEmpty then
    throw (.inconsistentBundle arguments.bundle bundle.problems)
  let context ← here.loadOr decodeContext Context.empty arguments.context
  let data ← here.loadOr (decodeDict decodeJson) [] arguments.data
  let transport ← here.transport settings.transport arguments.response
  let start ← here.now
  let run := bundle.application.run ⟨arguments.state, context, data⟩ arguments.event transport
  let stop ← here.now
  let timing := Timing.between start stop
  return run.outcome ⟨timing, timing⟩

/-- Writes the trace of an outcome if a file is named for it. -/
def save (outcome : StepOutcome) : ExceptT CommandError m Unit :=
  match arguments.traceOut with
  | none => pure ()
  | some path => here.saveTrace path outcome.trace

/-- **A step is taken before anything is written**, and shown when all is written. -/
theorem run_eq [LawfulMonad m] (settings : Settings) (options : Options) :
    arguments.run here settings options = do
      let outcome ← arguments.take here settings
      arguments.save here outcome
      return outcome.left options := by
  unfold run take
  rw [bind_assoc]
  congr 1
  funext bundle
  by_cases hproblems : (!bundle.problems.isEmpty) = true
  · rw [if_pos hproblems, if_pos hproblems]
    exact ExceptT.ext (by simp)
  · rw [if_neg hproblems, if_neg hproblems]
    simp only [bind_assoc, pure_bind, save]
    cases arguments.traceOut with
    | none => simp only [pure_bind]; rfl
    | some path => rfl

end StepArguments

/-! ### Tasks in a world -/

section
variable {W α β : Type} {w w' : W}

theorem run_bind_of_ok {task : ExceptT CommandError (StateM W) α}
    {more : α → ExceptT CommandError (StateM W) β} {x : α} (h : task.run.run w = (.ok x, w')) :
    (task >>= more).run.run w = (more x).run.run w' := by
  rw [ExceptT.run_bind, StateT.run_bind, h]
  rfl

theorem run_bind_of_error {task : ExceptT CommandError (StateM W) α}
    {more : α → ExceptT CommandError (StateM W) β} {e : CommandError}
    (h : task.run.run w = (.error e, w')) : (task >>= more).run.run w = (.error e, w') := by
  rw [ExceptT.run_bind, StateT.run_bind, h]
  rfl

theorem run_lift_of_run {action : StateM W α} {x : α} (h : action.run w = (x, w')) :
    (liftM action : ExceptT CommandError (StateM W) α).run.run w = (.ok x, w') := by
  show (Except.ok (action.run w).1, (action.run w).2) = _
  rw [h]

/-- The first part of a task that ends well ends well. -/
theorem exists_of_run_bind {task : ExceptT CommandError (StateM W) α}
    {more : α → ExceptT CommandError (StateM W) β} {y : β}
    (h : (task >>= more).run.run w = (.ok y, w')) :
    ∃ x between, task.run.run w = (.ok x, between) ∧ (more x).run.run between = (.ok y, w') := by
  rcases hfirst : task.run.run w with ⟨_ | x, between⟩
  · exact nomatch (Prod.mk.inj ((run_bind_of_error hfirst).symm.trans h)).1
  · exact ⟨x, between, rfl, (run_bind_of_ok hfirst).symm.trans h⟩

theorem run_of_run_lift {action : StateM W α} {x : α}
    (h : (liftM action : ExceptT CommandError (StateM W) α).run.run w = (.ok x, w')) :
    action.run w = (x, w') := by
  obtain ⟨hx, hw⟩ := Prod.mk.inj ((run_lift_of_run rfl).symm.trans h)
  exact Prod.ext (Except.ok.inj hx) hw

variable {here : Surroundings (StateM W)} {path : String} {decode : Decoder α} {x : α}

theorem Surroundings.readFile_of_readText {text : String}
    (h : (here.readText path).run.run w = (.ok text, w')) :
    (here.readFile path).run w = (.ok text, w') := by
  obtain ⟨found, between, hfound, h⟩ := exists_of_run_bind h
  have hfound := run_of_run_lift hfound
  cases found with
  | error e => exact nomatch (Prod.mk.inj h).1
  | ok found =>
    obtain ⟨htext, hw⟩ := Prod.mk.inj h
    rw [hfound, Except.ok.inj htext, hw]

theorem Surroundings.exists_of_load (h : (here.load decode path).run.run w = (.ok x, w')) :
    ∃ text, (here.readFile path).run w = (.ok text, w') ∧ parse decode text.toList = .ok x := by
  obtain ⟨text, between, htext, h⟩ := exists_of_run_bind h
  refine ⟨text, ?_⟩
  cases hparse : parse decode text.toList with
  | error e =>
    rw [hparse] at h
    exact nomatch (Prod.mk.inj h).1
  | ok y =>
    rw [hparse] at h
    obtain ⟨hy, hw⟩ := Prod.mk.inj h
    exact ⟨hw ▸ readFile_of_readText htext, congrArg Except.ok (Except.ok.inj hy)⟩

theorem Surroundings.reads_of_load (h : (here.load decode path).run.run w = (.ok x, w')) :
    decode.Reads x := by
  obtain ⟨text, -, hparse⟩ := exists_of_load h
  exact ⟨.text, exists_of_parse hparse⟩

/-- What stands for a document that is not named is a value of its decoder. -/
theorem Surroundings.reads_of_loadOr {default : α} (hdefault : decode.Reads default)
    {path : Option String} (h : (here.loadOr decode default path).run.run w = (.ok x, w')) :
    decode.Reads x := by
  cases path with
  | none => exact Except.ok.inj (Prod.mk.inj h).1 ▸ hdefault
  | some path => exact reads_of_load h

end

/-! ### Documents of a step -/

theorem reads_empty_context : decodeContext.Reads Context.empty :=
  ⟨.value, Node.ofJson (.object []), rfl⟩

theorem reads_empty_fields : (decodeDict decodeJson).Reads [] :=
  ⟨.value, Node.ofJson (.object []), rfl⟩

theorem reads_empty_rules : decodeRuleSet.Reads RuleSet.empty :=
  ⟨.value, Node.ofJson (.object []), rfl⟩

/-- The documents of an application are those that were read with its bundle. -/
theorem gives_decodeBundle_application : decodeBundle.Gives fun bundle => bundle.application.Read := by
  refine gives_decodeRecord fun origin fields => ?_
  have hmappings : (decodeList decodeApiMapping).Gives fun ms => ∀ m ∈ ms, decodeApiMapping.Reads m :=
    gives_decodeList fun origin node x hx => ⟨origin, node, hx⟩
  refine .seq (.seq (.seq (.map
      (fields.gives_required "flow" (p := decodeFlow.Reads) fun node x hx => ⟨origin, node, hx⟩) ?_)
      (fields.gives_defaulted "rules" reads_empty_rules fun node x hx => ⟨origin, node, hx⟩))
      (fields.gives_defaulted "apiMappings" (List.forall_mem_nil _) fun node x hx =>
        hmappings origin node x hx))
      (fields.gives_defaulted "uiSchemas" reads_empty_fields fun node x hx => ⟨origin, node, hx⟩)
  intro flow hflow rules hrules mappings hmappings schemas hschemas
  refine ⟨hflow, hrules, ?_, hschemas⟩
  intro e he
  have hmem := (Dict.mem_of_mem_insertAll _ _ he).resolve_right List.not_mem_nil
  obtain ⟨mapping, hmapping, rfl⟩ := List.mem_map.mp hmem
  exact hmappings mapping hmapping

theorem gives_decodeCannedResponse :
    decodeCannedResponse.Gives fun response => response.status < 2 ^ (16 : Nat) := by
  refine gives_decodeRecord fun origin fields => ?_
  refine .seq_any (.map (fields.gives_defaulted "status" (p := (· < 2 ^ (16 : Nat))) (by decide) ?_)
    fun status hstatus body => hstatus)
  intro node status h
  unfold decodeNat at h
  split at h
  · split at h
    · next hrange =>
      obtain rfl := Except.ok.inj h
      omega
    · exact nomatch h
  · exact nomatch h

/-! ### Steps that end well -/

/-- What holds of the files, of the answers and of the clock around a command. -/
structure Surroundings.Sound {W : Type} (here : Surroundings (StateM W)) : Prop where
  /-- A file that was written is read as it was written. -/
  written : ∀ {path text : String} {w w' : W},
    (here.writeFile path text).run w = (.ok (), w') →
      ∃ w'', (here.readFile path).run w' = (.ok text, w'')
  /-- The status of an answer has 16 bits. -/
  status_lt : ∀ request response, here.exchange request = .ok response →
    response.status < 2 ^ (16 : Nat)
  /-- The milliseconds since the start of 1970 have 64 bits. -/
  now_lt : ∀ w, (here.now.run w).1 < 2 ^ (64 : Nat) * 10 ^ (6 : Nat)

theorem Timing.inRange_between {start stop : Nat} (h : stop < 2 ^ (64 : Nat) * 10 ^ (6 : Nat)) :
    (Timing.between start stop).InRange := by
  show (stop - start) / 10 ^ (6 : Nat) < 2 ^ (64 : Nat)
  exact Nat.div_lt_of_lt_mul (by omega)

theorem Surroundings.written_of_saveTrace {W : Type} {here : Surroundings (StateM W)} {w w' : W}
    {path : String} {trace : Trace} (h : (here.saveTrace path trace).run.run w = (.ok (), w')) :
    (here.writeFile path trace.json.pretty).run w = (.ok (), w') := by
  obtain ⟨answer, between, hanswer, h⟩ := exists_of_run_bind h
  have hanswer := run_of_run_lift hanswer
  cases answer with
  | error e => exact nomatch (Prod.mk.inj h).1
  | ok done =>
    rw [hanswer, (Prod.mk.inj h).2]

namespace Surroundings.Sound

variable {W : Type} {here : Surroundings (StateM W)} {w w' : W}

theorem inRange_transport (hhere : here.Sound) {settings : HttpSettings} {response : Option String}
    {transport : Transport}
    (h : (here.transport settings response).run.run w = (.ok transport, w')) :
    transport.InRange := by
  cases response with
  | none =>
    obtain rfl := Except.ok.inj (Prod.mk.inj h).1
    intro request answer hanswer
    unfold HttpSettings.transport at hanswer
    split at hanswer
    · exact nomatch hanswer
    · exact hhere.status_lt _ _ hanswer
  | some path =>
    obtain ⟨canned, between, hcanned, h⟩ := exists_of_run_bind h
    obtain rfl := Except.ok.inj (Prod.mk.inj h).1
    intro request answer hanswer
    obtain rfl := Except.ok.inj hanswer
    exact gives_decodeCannedResponse.of_reads (reads_of_load hcanned)

/-- **The outcome of a command arises from documents that were read.** -/
theorem arises_of_take (hhere : here.Sound) {arguments : StepArguments} {settings : Settings}
    {o : StepOutcome} (h : (arguments.take here settings).run.run w = (.ok o, w')) :
    o.Arises := by
  -- Each task before the outcome ended well, in a world of its own.
  obtain ⟨bundle, w₁, hbundle, h⟩ := exists_of_run_bind h
  split at h
  · exact nomatch h
  obtain ⟨context, w₂, hcontext, h⟩ := exists_of_run_bind h
  obtain ⟨data, w₃, hdata, h⟩ := exists_of_run_bind h
  obtain ⟨transport, w₄, htransport, h⟩ := exists_of_run_bind h
  obtain ⟨start, w₅, -, h⟩ := exists_of_run_bind h
  obtain ⟨stop, w₆, hstop, h⟩ := exists_of_run_bind h
  obtain rfl := Except.ok.inj (Prod.mk.inj h).1
  have hlt := hhere.now_lt w₅
  rw [run_of_run_lift hstop] at hlt
  have htiming : (Timing.between start stop).InRange := Timing.inRange_between hlt
  exact .step (gives_decodeBundle_application.of_reads (reads_of_load hbundle))
    ⟨reads_of_loadOr reads_empty_context hcontext, reads_of_loadOr reads_empty_fields hdata⟩
    arguments.event (hhere.inRange_transport htransport) ⟨htiming, htiming⟩

/-- **What a step leaves behind**: what it shows is its outcome, and in the file that
is named for it stands its trace. -/
theorem exists_of_run (hhere : here.Sound) {arguments : StepArguments} {settings : Settings}
    {options : Options} {left : CommandOutcome}
    (h : (arguments.run here settings options).run.run w = (.ok left, w')) :
    ∃ o between, (arguments.take here settings).run.run w = (.ok o, between) ∧
      o.left options = left ∧
      ∀ path ∈ arguments.traceOut,
        ∃ later, (here.readFile path).run w' = (.ok o.trace.json.pretty, later) := by
  rw [StepArguments.run_eq] at h
  obtain ⟨o, between, htake, h⟩ := exists_of_run_bind h
  obtain ⟨_, written, hsave, h⟩ := exists_of_run_bind h
  obtain ⟨hleft, rfl⟩ := Prod.mk.inj h
  refine ⟨o, between, htake, Except.ok.inj hleft, fun path hpath => ?_⟩
  rw [StepArguments.save, hpath] at hsave
  exact hhere.written (written_of_saveTrace hsave)

end Surroundings.Sound

/-! ### Directories -/

namespace Directory

theorem file?_put (here : List String) (text : String) :
    ∀ d : Directory, (put here text d).file? here = some text
  | [] => by simp [put, file?]
  | (path, old) :: rest => by
    unfold put
    split
    · simp [file?]
    · next hne =>
      have ih := file?_put here text rest
      unfold file? at ih ⊢
      rw [List.find?_cons_of_neg (by simpa using hne)]
      exact ih

theorem read_of_write {d d' : Directory} {path text : String} (h : d.write path text = .ok d') :
    d'.read path = .ok text := by
  unfold write at h
  dsimp only at h
  split at h
  · exact nomatch h
  split at h
  · exact nomatch h
  split at h
  · exact nomatch h
  split at h
  · exact nomatch h
  obtain rfl := Except.ok.inj h
  next hplace _ _ hnames =>
    simp only [Bool.or_eq_true, not_or] at hplace
    rw [read, if_neg (by simp [hplace.1.1, hnames]), file?_put]

/-- The surroundings of a directory are sound. -/
theorem sound_surroundings : surroundings.Sound where
  written := by
    intro path text d d' h
    cases hwrite : d.write path text with
    | ok after =>
      have hrun : (surroundings.writeFile path text).run d = (.ok (), after) := by
        simp [surroundings, hwrite]
        rfl
      rw [hrun] at h
      obtain rfl := (Prod.mk.inj h).2
      refine ⟨after, ?_⟩
      show (after.read path, after) = _
      rw [read_of_write hwrite]
    | error e =>
      have hrun : (surroundings.writeFile path text).run d = (.error e, d) := by
        simp [surroundings, hwrite]
        rfl
      rw [hrun] at h
      cases (Prod.mk.inj h).1
  status_lt _ _ hanswer := nomatch hanswer
  now_lt _ := show 0 < _ by decide

end Directory
end PageFlow
