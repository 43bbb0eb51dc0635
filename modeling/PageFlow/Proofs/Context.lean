/-
# Contexts that are read back

A context that is read from a document is well formed: its dictionaries are
sorted, its values ordered, and no field without a meaning has the name of one
with a meaning. A well-formed context is read back from what is written of it. Fields
that make no context have a value of the wrong type.

Key definitions: `Context.WellFormed`.
Key theorems: `gives_decodeContext`, `Context.WellFormed.readsBack`,
`Context.isWrongType_of_contextOfFields`, `Json.same_self`.
-/
import PageFlow.Call
import PageFlow.Proofs.Document.RoundTrip
import PageFlow.Proofs.Document.WrongType

namespace PageFlow
open Document

/-- Contexts as they are read. -/
structure Context.WellFormed (context : Context) : Prop where
  sorted_flags : Dict.Sorted context.featureFlags
  sorted_extra : Dict.Sorted context.extra
  ordered_extra : ∀ e ∈ context.extra, e.2.Ordered
  /-- A field without a meaning is not named like one with a meaning. -/
  unnamed_extra : ∀ e ∈ context.extra, e.1 ∉ fieldNames

/-! ### What is read is well formed -/

theorem gives_others {names : List String} :
    ∀ {entries : Entries} {position : Nat}, (entries.others names position).Gives fun fields =>
      ∀ e ∈ fields, e.2.Ordered ∧ e.1 ∉ names
  | .closed _, _ => fun fields h => by
    obtain rfl : [] = fields := Attempt.done.inj h
    simp
  | .broken _ _, _ => fun fields h => by
    obtain rfl : [] = fields := Attempt.done.inj h
    simp
  | .entry (.error _) _ _ _ _, _ => fun fields h => by
    obtain rfl : [] = fields := Attempt.done.inj h
    simp
  | .entry (.ok key) _ value _ rest, position => by
    have ih : (rest.others names (position + 1)).Gives fun fields =>
      ∀ e ∈ fields, e.2.Ordered ∧ e.1 ∉ names := gives_others
    rw [Entries.others]
    split
    · exact ih
    · next hkey =>
      split
      · exact fun fields h => nomatch h
      · next x hx =>
        refine Attempt.Gives.map ih fun fields hfields => List.forall_mem_cons.mpr ⟨?_, hfields⟩
        exact ⟨Node.ordered_of_json hx, by simpa using hkey⟩

/-- With well-formed fields without a meaning, the fields with a meaning make a
well-formed context. -/
theorem Context.gives_ofFields (origin : Origin) (fields : Fields) :
    (ofFields origin fields).Gives fun make => ∀ extra : List (String × Json),
      (∀ e ∈ extra, e.2.Ordered ∧ e.1 ∉ fieldNames) → (make (Dict.ofList extra)).WellFormed := by
  have hflags : (fields.defaulted "featureFlags" [] (decodeDict decodeBool origin)).Gives
      Dict.Sorted :=
    fields.gives_defaulted "featureFlags" trivial fun node => gives_decodeDict decodeBool origin node
  refine .seq (.seq_any (.seq_any (.seq_any (.seq_any (.seq_any (.seq_any (.seq_any (.seq_any
    (.map_any ?_))))))))) hflags
  intro tenant user role roles locale timezone country device permissions flags hsorted extra hextra
  have hmem : ∀ e ∈ Dict.ofList extra, e ∈ extra := fun e he =>
    (Dict.mem_of_mem_insertAll extra [] he).resolve_right List.not_mem_nil
  exact ⟨hsorted, Dict.sorted_ofList extra, fun e he => (hextra e (hmem e he)).1,
    fun e he => (hextra e (hmem e he)).2⟩

/-- **A context that is read is well formed.** -/
theorem gives_decodeContext : decodeContext.Gives Context.WellFormed := by
  intro origin node context h
  unfold decodeContext at h
  split at h
  · exact nomatch h
  · refine Attempt.Gives.decoded ?_ h
    exact .seq (.seq_any (.map gives_others fun extra hextra _ make hmake => hmake extra hextra))
      (Context.gives_ofFields origin _)
  · exact nomatch h

/-! ### A well-formed context is read back -/

namespace Context

variable {context : Context}

/-- The fields of a context in the order of a document. -/
def written (context : Context) : Dict Json := context.knownFields.filterMap id ++ context.extra

theorem keys_known_sublist (context : Context) :
    (Dict.keys (context.knownFields.filterMap id)).Sublist fieldNames := by
  refine keys_filterMap_sublist ?_
  simp only [knownFields, fieldNames, List.forall₂_cons, fst_field,
    fst_fieldIfSome, implies_true, and_self, List.Forall₂.nil]

theorem WellFormed.orderedFields_known (h : context.WellFormed) :
    Json.OrderedFields (context.knownFields.filterMap id) := by
  have htexts : ∀ texts, (Json.ofTexts texts).Ordered := fun texts => by
    rw [Json.ofTexts, Json.Ordered, Json.orderedItems_iff]
    intro item hitem
    obtain ⟨text, -, rfl⟩ := List.mem_map.mp hitem
    trivial
  have htext : ∀ o : Option String, ∀ v ∈ o.map Json.string, v.Ordered := fun o v hv => by
    obtain ⟨text, -, rfl⟩ := Option.map_eq_some_iff.mp hv
    trivial
  have hflags : (Json.object (context.featureFlags.mapValues .bool)).Ordered := by
    refine ⟨h.sorted_flags.mapValues _, Json.orderedFields_iff.mpr fun e he => ?_⟩
    obtain ⟨flag, -, rfl⟩ := List.mem_map.mp he
    trivial
  simp only [knownFields, orderedFields_field, orderedFields_fieldIfSome]
  exact ⟨trivial, trivial, htext _, htexts _, htext _, htext _, htext _, htext _, htexts _, hflags,
    trivial⟩

theorem WellFormed.nodup_keys_written (h : context.WellFormed) : context.written.keys.Nodup := by
  rw [written, Dict.keys, List.map_append]
  refine List.nodup_append.mpr
    ⟨context.keys_known_sublist.nodup (by decide), h.sorted_extra.nodup_keys, ?_⟩
  rintro key hknown _ hextra rfl
  obtain ⟨e, he, rfl⟩ := List.mem_map.mp hextra
  exact h.unnamed_extra e he (context.keys_known_sublist.subset hknown)

theorem WellFormed.orderedFields_written (h : context.WellFormed) :
    Json.OrderedFields context.written := by
  refine Json.orderedFields_iff.mpr fun e he => ?_
  rcases List.mem_append.mp he with he | he
  · exact Json.orderedFields_iff.mp h.orderedFields_known e he
  · exact h.ordered_extra e he

theorem WellFormed.fields_eq (h : context.WellFormed) :
    context.fields = Dict.ofList context.written := by
  have hvalue : context.value = .object (Dict.ofList context.written) := by
    rw [value, json, Json.canonical]
    exact congrArg (fun fields => Json.object (Dict.ofList fields))
      (Json.canonicalFields_of_ordered h.orderedFields_written)
  rw [fields, hvalue]

theorem value_eq_fields (context : Context) : context.value = .object context.fields := by
  rw [fields, value, json, Json.canonical]

theorem sorted_fields (context : Context) : Dict.Sorted context.fields := by
  rw [fields, value, json, Json.canonical]
  exact Dict.sorted_ofList _

theorem WellFormed.find?_fields (h : context.WellFormed) {name : String}
    (hname : name ∈ fieldNames) :
    Dict.find? name context.fields = Dict.find? name (context.knownFields.filterMap id) := by
  have hextra : Dict.find? name context.extra = none :=
    Dict.find?_eq_none fun e he heq => h.unnamed_extra e he (heq ▸ hname)
  rw [h.fields_eq, Dict.find?_ofList h.nodup_keys_written, written, Dict.find?_append, hextra,
    Option.or_none]

theorem find?_known (context : Context) :
    let known : Dict Json := context.knownFields.filterMap id
    (Dict.find? "tenantId" known = some (.string context.tenantId) ∧
      Dict.find? "userId" known = some (.string context.userId)) ∧
    (Dict.find? "role" known = context.role.map .string ∧
      Dict.find? "locale" known = context.locale.map .string ∧
      Dict.find? "timezone" known = context.timezone.map .string ∧
      Dict.find? "country" known = context.country.map .string ∧
      Dict.find? "device" known = context.device.map .string) ∧
    (Dict.find? "roles" known = some (.array (context.roles.map .string)) ∧
      Dict.find? "permissions" known = some (.array (context.permissions.map .string))) ∧
    Dict.find? "featureFlags" known = some (.object (context.featureFlags.mapValues .bool)) := by
  simp only [knownFields, Json.ofTexts, find?_field, find?_fieldIfSome, reduceIte, String.reduceEq,
    List.filterMap_nil, Dict.find?, Option.or_none, and_self]

theorem WellFormed.ofFields_fields (h : context.WellFormed) (origin : Origin) :
    ofFields origin ((Entries.ofJson context.fields).fields fieldNames 0 []) =
      .done fun extra => { context with extra } := by
  obtain ⟨⟨htenant, huser⟩, ⟨hrole, hlocale, htimezone, hcountry, hdevice⟩, ⟨hroles, hpermissions⟩,
    hflags⟩ := context.find?_known
  have hkeys : context.fields.keys.Nodup := context.sorted_fields.nodup_keys
  have hfound : ∀ {name : String} {o : Option Json}, name ∈ fieldNames →
      Dict.find? name (context.knownFields.filterMap id) = o → Dict.find? name context.fields = o :=
    fun hname hfind => (h.find?_fields hname).trans hfind
  have htext : ∀ {name s}, name ∈ fieldNames →
      Dict.find? name (context.knownFields.filterMap id) = some (.string s) →
      ((Entries.ofJson context.fields).fields fieldNames 0 []).defaulted name ""
        (decodeText origin) = .done s :=
    fun hname hfind => defaulted_of_find? hkeys hname (hfound hname hfind) rfl
  have hoption : ∀ {name} {o : Option String}, name ∈ fieldNames →
      Dict.find? name (context.knownFields.filterMap id) = o.map .string →
      ((Entries.ofJson context.fields).fields fieldNames 0 []).optional name
        (decodeText origin) = .done o :=
    fun hname hfind => optional_of_find? hkeys hname (hfound hname hfind) fun s _ => ⟨nofun, rfl⟩
  have htexts : ∀ {name} {ts : List String}, name ∈ fieldNames →
      Dict.find? name (context.knownFields.filterMap id) = some (.array (ts.map .string)) →
      ((Entries.ofJson context.fields).fields fieldNames 0 []).defaulted name []
        (decodeList decodeText origin) = .done ts :=
    fun hname hfind => defaulted_of_find? hkeys hname (hfound hname hfind)
      (decodeList_ofJson fun _ _ => rfl)
  have hbools : ((Entries.ofJson context.fields).fields fieldNames 0 []).defaulted "featureFlags" []
      (decodeDict decodeBool origin) = .done context.featureFlags :=
    defaulted_of_find? hkeys (by decide) (hfound (by decide) hflags)
      (decodeDict_ofJson h.sorted_flags fun _ _ => rfl)
  rw [ofFields, htext (by decide) htenant, htext (by decide) huser, hoption (by decide) hrole,
    htexts (by decide) hroles, hoption (by decide) hlocale, hoption (by decide) htimezone,
    hoption (by decide) hcountry, hoption (by decide) hdevice, htexts (by decide) hpermissions,
    hbools]
  rfl

end Context

theorem Document.others_ofJson {names : List String} :
    ∀ (fields : Dict Json) (position : Nat), (Entries.ofJson fields).others names position =
      .done (Json.canonicalFields (fields.filter fun e => !names.contains e.1))
  | [], _ => rfl
  | (k, x) :: rest, position => by
    rw [Entries.ofJson, Entries.others, others_ofJson rest (position + 1), Node.json, Node.content_ofJson]
    by_cases hk : k ∈ names
    · simp [hk]
    · simp [hk, Except.map, Json.canonicalFields]

namespace Context

variable {context : Context}

theorem WellFormed.filter_fields (h : context.WellFormed) :
    context.fields.filter (fun e => !fieldNames.contains e.1) = context.extra := by
  refine (context.sorted_fields.sublist List.filter_sublist).eq_of_mem_iff h.sorted_extra fun e => ?_
  rw [h.fields_eq, List.mem_filter, Dict.mem_ofList h.nodup_keys_written, written, List.mem_append]
  constructor
  · rintro ⟨hknown | hextra, hname⟩
    · have hmem := context.keys_known_sublist.subset (List.mem_map_of_mem hknown)
      exact absurd hmem (by simpa using hname)
    · exact hextra
  · exact fun hextra => ⟨.inr hextra, by simpa using h.unnamed_extra e hextra⟩

/-- **A well-formed context is read back from what is written of it**, wherever the
document comes from. -/
theorem WellFormed.readsBack (h : context.WellFormed) :
    decodeContext.ReadsBack context.json context := by
  intro origin
  have hextra : Json.OrderedFields context.extra := Json.orderedFields_iff.mpr h.ordered_extra
  show decodeContext origin (Node.ofJson context.value) = _
  rw [context.value_eq_fields, Node.ofJson, decodeContext, h.ofFields_fields, others_ofJson,
    h.filter_fields, Json.canonicalFields_of_ordered hextra, Fields.intact,
    halted_fields_ofJson context.sorted_fields.nodup_keys (by simp)]
  simp [Dict.ofList_of_sorted h.sorted_extra, Attempt.decoded]

theorem WellFormed.contextOfFields_fields (h : context.WellFormed) :
    contextOfFields context.fields = .ok context := by
  have hread : decodeContext .value (Node.ofJson (.object context.fields)) = .ok context := by
    rw [← context.value_eq_fields]
    exact h.readsBack .value
  rw [contextOfFields, hread]
  rfl

/-- Fields that make no context have a value of the wrong type. -/
theorem isWrongType_of_contextOfFields {fields : Dict Json} (hkeys : fields.keys.Nodup)
    {c : Complaint} (h : contextOfFields fields = .error c) : c.IsWrongType := by
  obtain ⟨e, he, rfl⟩ := eq_error_of_mapError h
  rw [Node.ofJson, decodeContext] at he
  refine Attempt.FailsByType.decoded (.seq (.seq (.map ?_) ?_) ?_) he
  · rw [others_ofJson]
    exact Attempt.failsByType_done _
  · rw [Fields.intact, halted_fields_ofJson hkeys (by simp)]
    exact Attempt.failsByType_done ()
  · have htext : ∀ {name}, name ∈ fieldNames →
        (((Entries.ofJson fields).fields fieldNames 0 []).defaulted name ""
          (decodeText .value)).FailsByType :=
      fun hname => failsByType_defaulted hkeys hname (failsByType_decodeText .value) ""
    have hoption : ∀ {name}, name ∈ fieldNames →
        (((Entries.ofJson fields).fields fieldNames 0 []).optional name
          (decodeText .value)).FailsByType :=
      fun hname => failsByType_optional hkeys hname (failsByType_decodeText .value)
    have htexts : ∀ {name}, name ∈ fieldNames →
        (((Entries.ofJson fields).fields fieldNames 0 []).defaulted name []
          (decodeList decodeText .value)).FailsByType :=
      fun hname => failsByType_defaulted hkeys hname
        (failsByType_decodeList failsByType_decodeText .value) []
    have hflags : (((Entries.ofJson fields).fields fieldNames 0 []).defaulted "featureFlags" []
        (decodeDict decodeBool .value)).FailsByType :=
      failsByType_defaulted hkeys (by decide) (failsByType_decodeDict failsByType_decodeBool .value)
        []
    exact .seq (.seq (.seq (.seq (.seq (.seq (.seq (.seq (.seq (.map (htext (by decide)))
      (htext (by decide))) (hoption (by decide))) (htexts (by decide))) (hoption (by decide)))
      (hoption (by decide))) (hoption (by decide))) (hoption (by decide))) (htexts (by decide)))
      hflags

end Context

/-! ### Values and themselves -/

namespace Json

mutual

/-- A value is the same as itself. -/
theorem same_self : ∀ value : Json, value.same value = true
  | .null => by rw [same]
  | .bool b => by rw [same, beq_self_eq_true]
  | .number (.integer n _) => by rw [same, beq_self_eq_true]
  | .number (.float x) => by rw [same, beq_self_eq_true]
  | .string s => by rw [same, beq_self_eq_true]
  | .array items => by rw [same, sameItems_self items]
  | .object fields => by rw [same, sameFields_self fields]

theorem sameItems_self : ∀ items : List Json, sameItems items items = true
  | [] => by rw [sameItems]
  | x :: rest => by rw [sameItems, same_self x, sameItems_self rest, Bool.and_self]

theorem sameFields_self : ∀ fields : List (String × Json), sameFields fields fields = true
  | [] => by rw [sameFields]
  | (k, x) :: rest => by
    rw [sameFields, same_self x, sameFields_self rest, beq_self_eq_true, Bool.and_self, Bool.and_self]

end

end Json
end PageFlow
