/-
# The context along sessions

Whatever steps are taken from a context that was read, the context stays one
that is read back from its own document. A response is folded into the fields of
the context entry by entry, in the order of the keys: an entry is written as a
whole, or it leaves the fields as they are and one error that names its key. So
the fields that are left always make a context.

Key definitions: `Context.Reached`, `ContextEntryRun`, `ContextRun`.
Key theorems: `Context.wellFormed_of_contextOfFields`, `Application.wellFormed_run`,
`contextRun_fold`, `Context.Reached.settled_call`.
-/
import PageFlow.Proofs.Call.Areas
import PageFlow.Proofs.Mapping.Document
import PageFlow.Proofs.Session

namespace PageFlow
open Document

/-- The contexts that steps lead to: those that are read, and what any step of
any application makes of one. -/
inductive Context.Reached : Context → Prop
  | read {origin : Origin} {node : Node} {context : Context}
      (h : decodeContext origin node = .ok context) : Reached context
  | step (app : Application) (here : Situation) (event : String) (transport : Transport)
      (h : Reached here.context) : Reached (app.run here event transport).context

/-! ### Contexts stay well formed -/

/-- Fields that make a context make a well-formed one. -/
theorem Context.wellFormed_of_contextOfFields {fields : Dict Json} {context : Context}
    (h : contextOfFields fields = .ok context) : context.WellFormed :=
  gives_decodeContext .value _ context (eq_ok_of_mapError h)

theorem Context.WellFormed.settle_fst {context : Context} (h : context.WellFormed)
    (fields : Dict Json) : (context.settle fields).1.WellFormed := by
  rw [Context.settle]
  cases hread : contextOfFields fields with
  | error c => exact h
  | ok next =>
    dsimp only
    split
    · exact h
    · exact wellFormed_of_contextOfFields hread

theorem ApiMapping.wellFormed_call (mapping : ApiMapping) {context : Context}
    (h : context.WellFormed) (data : Dict Json) (transport : Transport) :
    (mapping.call context data transport).context.WellFormed := by
  rcases mapping.failed_or_succeeded context data transport with
    ⟨fault, hcall⟩ | ⟨response, value, -, -, -, hcall⟩
  · rw [hcall]
    exact h
  · rw [hcall, succeeded, foldResponse_eq mapping h]
    exact h.settle_fst _

/-- A step leaves a well-formed context. -/
theorem Application.wellFormed_run (app : Application) {here : Situation}
    (h : here.context.WellFormed) (event : String) (transport : Transport) :
    (app.run here event transport).context.WellFormed := by
  rw [run_context]
  split
  · next mapping outcome hcalled =>
    rw [run_api, Option.map_eq_some_iff] at hcalled
    obtain ⟨apiId, -, hcall⟩ := hcalled
    unfold callApi at hcall
    split at hcall
    · obtain ⟨-, rfl⟩ := ApiResult.called.inj hcall
      exact ApiMapping.wellFormed_call _ h _ _
    · exact nomatch hcall
  · exact h

theorem Context.Reached.wellFormed {context : Context} (h : context.Reached) :
    context.WellFormed := by
  induction h with
  | read hread => exact gives_decodeContext _ _ _ hread
  | step app here event transport _ ih => exact app.wellFormed_run ih event transport

theorem Application.reached_session (app : Application) {here : Situation}
    (h : here.context.Reached) (turns : List Turn) :
    ∀ run ∈ app.session here turns, run.context.Reached := by
  refine app.forall_session (fun here => here.context.Reached) (fun here t hi => ?_) turns here h
  have hstep : (app.turn here t).context.Reached :=
    .step app { here with data := here.data.insertAll t.set } t.event t.transport hi
  exact ⟨hstep, hstep⟩

/-! ### Entries are written as a whole or not at all -/

/-- What an entry for the context does to the fields that the entries before it
left. Either its value is written, and the fields make a context, or the fields
stay as they are and there is one error with the key of the entry. -/
inductive ContextEntryRun (scope : Scope) (key : String) (entry : MappingEntry)
    (before : Dict Json) : Dict Json → List EntryError → Prop
  | written {value : Json} {target : Path} {after : Dict Json} {next : Context}
      (hvalue : entry.resolve scope = .ok value)
      (htarget : Path.parseContextTarget key = .ok target)
      (hwrite : write target value before = .ok after)
      (hread : contextOfFields after = .ok next) :
    ContextEntryRun scope key entry before after []
  | unmapped {e : MappingError} (herror : entry.resolve scope = .error e) :
    ContextEntryRun scope key entry before before [⟨"responseMap.context", key, .mapping e⟩]
  | refused {value : Json} {fault : EntryFault} (hvalue : entry.resolve scope = .ok value)
      (hrefused : writeContext key value before = .error fault) :
    ContextEntryRun scope key entry before before [⟨"responseMap.context", key, fault⟩]

/-- What the entries for the context do to its fields, one after the other. -/
inductive ContextRun (scope : Scope) :
    Dict MappingEntry → Dict Json → Dict Json → List EntryError → Prop
  | nil (fields : Dict Json) : ContextRun scope [] fields fields []
  | cons {key : String} {entry : MappingEntry} {rest : Dict MappingEntry}
      {before middle after : Dict Json} {errors more : List EntryError}
      (hentry : ContextEntryRun scope key entry before middle errors)
      (hrest : ContextRun scope rest middle after more) :
    ContextRun scope ((key, entry) :: rest) before after (errors ++ more)

/-- The entries leave what their area leaves, and the errors of their area. -/
theorem contextRun_fold (scope : Scope) : ∀ (entries : Dict MappingEntry) (fields : Dict Json),
    ∃ errors, ContextRun scope entries fields (Area.context.fold scope entries fields).1 errors ∧
      errors.Perm (Area.context.errors (Area.context.fold scope entries fields).2)
  | [], fields => ⟨[], .nil fields, .refl []⟩
  | (key, entry) :: rest, fields => by
    rw [Area.fold, mappedValues, mappingErrors]
    cases hvalue : entry.resolve scope with
    | error e =>
      obtain ⟨errors, hrun, hperm⟩ := contextRun_fold scope rest fields
      exact ⟨_, .cons (.unmapped hvalue) hrun, hperm.cons _⟩
    | ok value =>
      dsimp only
      rw [Area.putAll]
      cases hput : Area.context.put key value fields with
      | ok next =>
        obtain ⟨errors, hrun, hperm⟩ := contextRun_fold scope rest next
        obtain ⟨target, context, htarget, hwrite, hread⟩ := exists_of_writeContext hput
        exact ⟨_, .cons (.written hvalue htarget hwrite hread) hrun, hperm⟩
      | error fault =>
        obtain ⟨errors, hrun, hperm⟩ := contextRun_fold scope rest fields
        refine ⟨_, .cons (.refused hvalue hput) hrun, (hperm.cons _).trans ?_⟩
        rw [Area.errors, Area.fold, Area.errors, List.map_append, List.map_append, List.map_cons]
        exact List.perm_middle.symm

theorem ContextRun.readable {scope : Scope} {entries : Dict MappingEntry}
    {before after : Dict Json} {errors : List EntryError}
    (h : ContextRun scope entries before after errors)
    (hbefore : ∃ context, contextOfFields before = .ok context) :
    ∃ context, contextOfFields after = .ok context := by
  induction h with
  | nil fields => exact hbefore
  | cons hentry hrest ih =>
    refine ih ?_
    cases hentry with
    | written hvalue htarget hwrite hread => exact ⟨_, hread⟩
    | unmapped herror => exact hbefore
    | refused hvalue hrefused => exact hbefore

/-! ### What a call reports of the context -/

/-- Whether an error is one of the context. -/
def CallError.ofContext : CallError → Bool
  | .entry e => e.area == Area.context.name
  | .context _ => true

/-- The errors of an area are all of the context, or none of them is. -/
theorem filter_ofContext_errors (area : Area) (faults : List (String × EntryFault)) :
    ((area.errors faults).map CallError.entry).filter CallError.ofContext =
      if area.name = Area.context.name then (area.errors faults).map .entry else [] := by
  split
  · next harea =>
    refine List.filter_eq_self.mpr fun err herr => ?_
    obtain ⟨e, he, rfl⟩ := List.mem_map.mp herr
    obtain ⟨fault, -, rfl⟩ := List.mem_map.mp he
    exact beq_iff_eq.mpr harea
  · next harea =>
    refine List.filter_eq_nil_iff.mpr fun err herr => ?_
    obtain ⟨e, he, rfl⟩ := List.mem_map.mp herr
    obtain ⟨fault, -, rfl⟩ := List.mem_map.mp he
    exact fun hsame => harea (beq_iff_eq.mp hsame)

/-- How the error of a context that cannot be read back starts. -/
def contextMark : List Char := "responseMap.context: invalid context".toList

/-- A text that parts from the mark in its front does not start with it. -/
theorem not_mark_append {front : String}
    (h : ¬ (contextMark <+: front.toList ∨ front.toList <+: contextMark)) (back : String) :
    ¬ contextMark <+: (front ++ back).toList := by
  rw [String.toList_append]
  exact fun hmark => h (List.prefix_or_prefix_of_prefix hmark (List.prefix_append _ _))

theorem not_mark_entry (area : Area) (key : String) (fault : EntryFault) :
    ¬ contextMark <+: (EntryError.message ⟨area.name, key, fault⟩).toList := by
  have hmessage : EntryError.message ⟨area.name, key, fault⟩ =
      (area.name ++ ".") ++ (key ++ (": " ++ fault.message)) := by
    rw [EntryError.message, String.append_assoc, String.append_assoc]
  rw [hmessage]
  cases area <;> exact not_mark_append (by decide) _

theorem not_mark_fault (fault : CallFault) : ¬ contextMark <+: fault.message.toList := by
  cases fault with
  | transport e =>
    cases e with
    | requestFailed url m =>
      have hmessage : (CallFault.transport (.requestFailed url m)).message =
          "request to '" ++ (url ++ ("' failed: " ++ m)) := by
        show "request to '" ++ url ++ "' failed: " ++ m = _
        rw [String.append_assoc, String.append_assoc]
      rw [hmessage]
      exact not_mark_append (by decide) _
    | config m => exact not_mark_append (by decide) _
    | task m => exact not_mark_append (by decide) _
  | status n => exact not_mark_append (by decide) _
  | badBody e body => exact not_mark_append (by decide) _

namespace Context

variable {context : Context}

theorem WellFormed.readable_fold (h : context.WellFormed) (scope : Scope)
    (entries : Dict MappingEntry) :
    ∃ next, contextOfFields (Area.context.fold scope entries context.fields).1 = .ok next := by
  obtain ⟨errors, hrun, -⟩ := contextRun_fold scope entries context.fields
  exact hrun.readable ⟨context, h.contextOfFields_fields⟩

/-- In a well-formed context all that a call reports is errors of entries. -/
theorem WellFormed.not_mark_of_messages (h : context.WellFormed) (mapping : ApiMapping)
    (data : Dict Json) (transport : Transport) :
    ∀ message ∈ (mapping.call context data transport).messages,
      ¬ contextMark <+: message.toList := by
  intro message hmessage
  rcases List.mem_append.mp hmessage with hmessage | hmessage
  · obtain ⟨err, herr, rfl⟩ := List.mem_map.mp hmessage
    cases ApiMapping.reports_of_mem herr with
    | @entry area _ _ _ key _ fault => exact not_mark_entry area key fault
    | @context scope c _ hread =>
      obtain ⟨next, hnext⟩ := h.readable_fold scope (mapping.entries .context)
      exact nomatch hread.symm.trans hnext
  · obtain ⟨fault, -, rfl⟩ := Option.map_eq_some_iff.mp (Option.mem_toList.mp hmessage)
    exact not_mark_fault fault

theorem WellFormed.contextRun_call (h : context.WellFormed) {mapping : ApiMapping}
    {data : Dict Json} {transport : Transport} {value : Json}
    (hfolds : mapping.Folds context data transport value) :
    let outcome := mapping.call context data transport
    ∃ final errors next,
      ContextRun ⟨data, context.value, some value⟩ (mapping.entries .context) context.fields
        final errors ∧
      contextOfFields final = .ok next ∧
      (outcome.context = next ∨ outcome.context = context ∧ next.value.same context.value = true) ∧
      (outcome.errors.filter CallError.ofContext).Perm (errors.map .entry) := by
  intro outcome
  let scope : Scope := ⟨data, context.value, some value⟩
  obtain ⟨errors, hrun, hperm⟩ := contextRun_fold scope (mapping.entries .context) context.fields
  obtain ⟨next, hnext⟩ := h.readable_fold scope (mapping.entries .context)
  obtain ⟨response, hanswer, hstatus, hread⟩ := hfolds
  have houtcome : outcome = mapping.succeeded context data response value :=
    mapping.eq_of_ends context data (.folded response hanswer hstatus value hread)
  refine ⟨_, errors, next, hrun, hnext, ?_, ?_⟩
  · rw [houtcome, ApiMapping.succeeded, ApiMapping.foldResponse_eq mapping h]
    dsimp only
    rw [settle, hnext]
    dsimp only
    split
    · next hsame => exact .inr ⟨rfl, hsame⟩
    · exact .inl rfl
  · rw [houtcome, ApiMapping.succeeded, ApiMapping.foldResponse_eq mapping h,
      ApiMapping.buildRequest_eq]
    dsimp only
    rw [settle, hnext]
    simp only [List.map_append, List.filter_append, filter_ofContext_errors, Area.name,
      String.reduceEq, if_true, if_false, List.nil_append, List.append_nil]
    exact (hperm.map _).symm

/-- **A context that was read stays one.** Every context that steps lead to is read
back from its own document. A call in it never reports that the context cannot be
read back, and a response that is folded in is taken entry by entry, in the order
of the keys if the mapping was read: each entry is written as a whole, or leaves
the fields as they are and one error with its key. -/
theorem Reached.settled_call (h : context.Reached) :
    decodeContext .value (Node.ofJson context.value) = .ok context ∧
      ∀ (mapping : ApiMapping) (data : Dict Json) (transport : Transport),
        let outcome := mapping.call context data transport
        let entries := mapping.entries .context
        (∀ origin node, decodeApiMapping origin node = .ok mapping → Dict.Sorted entries) ∧
        (∀ message ∈ outcome.messages, ¬ contextMark <+: message.toList) ∧
        ∀ value, mapping.Folds context data transport value →
          ∃ final errors next,
            ContextRun ⟨data, context.value, some value⟩ entries context.fields final errors ∧
            contextOfFields final = .ok next ∧
            (outcome.context = next ∨
              outcome.context = context ∧ next.value.same context.value = true) ∧
            (outcome.errors.filter CallError.ofContext).Perm (errors.map .entry) := by
  refine ⟨h.wellFormed.readsBack .value, fun mapping data transport => ⟨?_, ?_, ?_⟩⟩
  · intro origin node hdecode
    exact (ApiMapping.sorted_of_decode origin node mapping hdecode).response.context
  · exact h.wellFormed.not_mark_of_messages mapping data transport
  · exact fun value hfolds => h.wellFormed.contextRun_call hfolds

/-- A call that keeps a theme in the context, and roles that are no list. -/
def signingIn : ApiMapping where
  apiId := "sign-in"
  method := "POST"
  endpoint := "/sign-in"
  requestMap := ⟨[], [], []⟩
  responseMap := ⟨[], [("roles", ⟨"literal:editor", none⟩), ("theme", ⟨"literal:dark", none⟩)]⟩

/-- Pages that make the call when they are opened. -/
def portal : Application where
  flow := ⟨"door", [("door", ⟨"door-page", [("open", ⟨"door", none, some ⟨"sign-in"⟩⟩)]⟩)]⟩
  uiSchemas := []
  rules := .empty
  mappings := [("sign-in", signingIn)]

/-- The theme is kept, the roles are refused, and the context is read back. -/
theorem settled_call_portal :
    let transport : Transport := fun _ => .ok ⟨200, ""⟩
    let context := (portal.run ⟨none, .empty, []⟩ "open" transport).context
    context.Reached ∧
      (Dict.find? "theme" context.extra).map Json.compact = some "\"dark\"" ∧
      decodeContext .value (Node.ofJson context.value) = .ok context ∧
      (signingIn.call context [] transport).messages = ["responseMap.context.roles: " ++
        "invalid context value: invalid type: string \"editor\", expected a sequence"] ∧
      ∀ message ∈ (signingIn.call context [] transport).messages,
        ¬ contextMark <+: message.toList := by
  intro transport context
  have hread : decodeContext .value (Node.ofJson (.object [])) = .ok .empty := by rfl
  have hreached : context.Reached := .step portal ⟨none, .empty, []⟩ "open" transport (.read hread)
  have hsettled := hreached.settled_call
  refine ⟨hreached, ?_, hsettled.1, ?_, (hsettled.2 signingIn [] transport).2.1⟩
  · decide +kernel
  · decide +kernel

end Context
end PageFlow
