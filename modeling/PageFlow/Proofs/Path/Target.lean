/-
# Paths that can be used

The target of a write, once it can be read, has a root and at least one
segment, so a write at it is refused only because of the values that stand on
the way: a scalar, or an array without that item. A path into the data or the
context, once it can be read, always has a value.

Key definitions: `PathError.ByShape`.
Key theorems: `Path.segments_ne_nil_of_parseTarget`, `byShape_of_write`,
`Scope.resolve_of_available`, `Scope.resolve_ofData`.
-/
import PageFlow.Proofs.Path.Refusal
import PageFlow.Proofs.Text.Split

namespace PageFlow

/-- Whether an error is the refusal of a write by the shape of the values. -/
def PathError.ByShape : PathError → Prop
  | .notAContainer _ _ => True
  | .indexOutOfBounds _ _ => True
  | _ => False

theorem Root.ofName?_eq_none {name : String} (h : ∀ root : Root, root.name ≠ name) :
    ofName? name = none := by
  refine List.find?_eq_none.mpr fun root _ hname => h root ?_
  exact beq_iff_eq.mp hname

namespace Path

theorem ofSegments_eq_ok_iff {raw : String} {root : Root} {segments : List String} {path : Path} :
    ofSegments raw root segments = .ok path ↔
      path = ⟨raw, root, segments⟩ ∧ ∀ s ∈ segments, s ≠ "" := by
  have hall : segments.all (fun s => s != "") = true ↔ ∀ s ∈ segments, s ≠ "" := by
    simp only [List.all_eq_true, bne_iff_ne]
  unfold ofSegments
  split
  · next h => exact ⟨fun heq => ⟨(Except.ok.inj heq).symm, hall.mp h⟩, fun heq => by rw [heq.1]⟩
  · next h => exact ⟨nofun, fun heq => absurd (hall.mpr heq.2) h⟩

theorem segments_ne_nil_of_parseTarget {root : Root} {raw : String} {path : Path}
    (h : parseTarget root raw = .ok path) : path.segments ≠ [] := by
  unfold parseTarget at h
  split at h
  · cases h
  · split at h
    · cases h
    · split at h
      · rw [(ofSegments_eq_ok_iff.mp h).1]
        exact List.cons_ne_nil _ _
      · split at h
        · cases h
        · split at h
          · cases h
          · rename_i hne
            rw [(ofSegments_eq_ok_iff.mp h).1]
            simpa using hne

end Path

/-! ### Refusals -/

theorem Json.Blocks.byShape {segment : String} {value : Json} {refusal : Refusal}
    (h : Blocks segment value refusal) (raw : String) : (refusal.pathError raw).ByShape := by
  cases h <;> trivial

/-- A write at a path with a segment is refused only by the shape of the values. -/
theorem byShape_of_write {path : Path} {new : Json} {fields : Dict Json} {e : PathError}
    (hne : path.segments ≠ []) (h : write path new fields = .error e) : e.ByShape := by
  rw [write_eq] at h
  obtain ⟨refusal, hrefusal, rfl⟩ := eq_error_of_mapError h
  rcases putFields_eq_error_iff.mp hrefusal with ⟨hnil, -⟩ | ⟨_, _, _, _, -, -, hblocks⟩
  · exact absurd hnil hne
  · exact hblocks.byShape path.raw

/-! ### Reading -/

/-- A path has a value, unless it leads into a response that is not there. -/
theorem Scope.resolve_of_available {scope : Scope} {path : Path}
    (h : path.root = .response → scope.response.isSome) :
    ∃ value, scope.resolve path = .ok value := by
  obtain ⟨raw, root, segments⟩ := path
  obtain ⟨data, context, response⟩ := scope
  unfold resolve
  split
  · exact ⟨_, rfl⟩
  · cases root with
    | data => exact ⟨_, rfl⟩
    | context => exact ⟨_, rfl⟩
    | response =>
      cases response with
      | none => exact absurd (h rfl) Bool.false_ne_true
      | some value => exact ⟨_, rfl⟩

/-- Without a response every path into the data or the context has a value. -/
theorem Scope.resolve_ofData {path : Path} (data : Dict Json) (context : Json)
    (h : path.root ≠ .response) :
    ∃ value, (Scope.ofData data context).resolve path = .ok value :=
  resolve_of_available fun hresponse => absurd hresponse h

end PageFlow
