import ContactGraph.Computed.Step
import ContactGraph.Proofs.Contact.Basic
import ContactGraph.Result.Contacts

/-!
# What identifies a contact

Nothing that is read or computed changes what identifies a contact (`addRow_id`,
`Computed.complete_id`).
-/

namespace ContactGraph

variable {α : Type} {c : Contact}

/-! ## Contacts -/

theorem foldl_id {f : Contact → α → Contact} (h : ∀ c x, (f c x).id = c.id) (xs : List α)
    (c : Contact) : (xs.foldl f c).id = c.id := by
  induction xs generalizing c with
  | nil => rfl
  | cons x xs ih => rw [List.foldl_cons, ih, h]

namespace Contact

@[simp] theorem save_id (c : Contact) (d : Detail) : (c.save d).id = c.id := rfl

theorem getD_saveUnique_id (c : Contact) (d : Detail) :
    ((c.saveUnique d).toOption.getD c).id = c.id := by
  rw [getD_saveUnique]
  split <;> rfl

@[simp] theorem relate_id (c : Contact) (r : Relationship) : (c.relate r).id = c.id := by
  rw [relate]
  split <;> rfl

end Contact

namespace Computed

theorem applyIfWanted_id (wanted : NameSet) (c : Contact) (s : Step) :
    (s.applyIfWanted wanted c).id = c.id := by
  rw [Step.applyIfWanted]
  split
  · cases s with
    | removeDuplicates => rfl
    | globalPresence =>
      show (globalPresence c).id = c.id
      unfold globalPresence
      dsimp only
      split <;> rfl
    | displayLabel order preferNickname =>
      show (displayLabel order preferNickname c).id = c.id
      unfold displayLabel
      dsimp only
      split <;> rfl
    | avatars => exact foldl_id Contact.save_id _ _
    | closeLinks => rfl
  · rfl

/-- Computing details keeps the identity of a contact. -/
@[simp] theorem complete_id (settings : Settings) (wanted : NameSet) (c : Contact) :
    (complete settings wanted c).id = c.id :=
  foldl_id (applyIfWanted_id wanted) _ c

theorem map_id_complete (settings : Settings) (wanted : NameSet) (cs : List Contact) :
    (cs.map (complete settings wanted)).map (·.id) = cs.map (·.id) := by
  rw [List.map_map]
  exact List.map_congr_left fun c _ => complete_id settings wanted c

end Computed

/-! ## Rows -/

namespace Result

open Query

theorem addBinding_id (frame : Frame) (row : Row) (c : Contact) (b : Query.Binding) :
    (addBinding frame row c b).id = c.id := by
  unfold addBinding
  dsimp only
  split
  · rfl
  · split
    · rfl
    · split
      · split
        · exact c.getD_saveUnique_id _
        · rfl
      · exact foldl_id Contact.save_id _ _

/-- What a row tells keeps the identity of a contact. -/
@[simp] theorem addRow_id (frame : Frame) (plan : Plan) (row : Row) (c : Contact) :
    (addRow frame plan row c).id = c.id := by
  have hbindings := foldl_id (addBinding_id frame row) plan.bindings c
  unfold addRow
  dsimp only
  split
  · rw [addRelationships, foldl_id Contact.relate_id]
    split
    · rw [foldl_id Contact.save_id, hbindings]
    · exact hbindings
  · split
    · rw [foldl_id Contact.save_id, hbindings]
    · exact hbindings

end Result

end ContactGraph
