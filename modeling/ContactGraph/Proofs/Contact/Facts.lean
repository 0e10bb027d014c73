import ContactGraph.Proofs.Contact.Equality

/-!
# Facts told of a contact

What is told of a contact comes in facts : details that are saved as they come, details of which
there may be one, and relationships (`Contact.tell`). Contacts that are the same once duplicates are
removed stay so, whatever is told of both (`Contact.removeDuplicates_tell_congr`). A fact that a
contact knows tells nothing but a duplicate (`Contact.removeDuplicates_tell`), a fact is known from
when it was told (`Contact.knows_tell`), and what else is told does not change that
(`Contact.Knows.tell`). So facts told once more are lost with the duplicates
(`Contact.removeDuplicates_foldl_tell`).
-/

namespace ContactGraph

/-- Something told of a contact. -/
inductive Fact where
  /-- A detail. -/
  | detail (d : Detail)
  /-- A detail of which there may be one. -/
  | unique (d : Detail)
  /-- A relationship. -/
  | relationship (r : Relationship)

namespace Contact

variable {c c' : Contact} {d : Detail} {f g : Fact} {fs : List Fact}

/-! ## Removing duplicates -/

theorem distinctAfter_append (seen ds es : List Detail) :
    distinctAfter seen (ds ++ es) =
      distinctAfter seen ds ++ distinctAfter (seen ++ distinctAfter seen ds) es := by
  induction ds generalizing seen with
  | nil => simp [distinctAfter]
  | cons d ds ih =>
    rw [List.cons_append, distinctAfter, distinctAfter]
    split
    · exact ih seen
    · rw [ih (seen ++ [d])]
      simp

/-- A detail that stands among others has an equal one left when duplicates are removed. -/
theorem any_distinctAfter (seen : List Detail) {ds : List Detail} (hself : (d == d) = true)
    (h : d ∈ ds) : (seen ++ distinctAfter seen ds).any (· == d) = true := by
  induction ds generalizing seen with
  | nil => exact absurd h List.not_mem_nil
  | cons x ds ih =>
    rw [distinctAfter]
    rcases List.mem_cons.mp h with rfl | h
    · split
      · rename_i hseen
        rw [List.any_append, hseen, Bool.true_or]
      · simp [hself]
    · split
      · exact ih seen h
      · simpa using ih (seen ++ [x]) h

/-- Only a detail of the same name can hide the first one of a name. -/
theorem find?_distinctAfter {seen : List Detail} (name : String) (hseen : ∀ x ∈ seen, x.name ≠ name)
    (ds : List Detail) :
    (distinctAfter seen ds).find? (·.name = name) = ds.find? (·.name = name) := by
  induction ds generalizing seen with
  | nil => rfl
  | cons d ds ih =>
    rw [distinctAfter]
    by_cases hname : d.name = name
    · have hnew : ¬ seen.any (· == d) = true := by
        rw [List.any_eq_true]
        rintro ⟨x, hx, heq⟩
        exact hseen x hx ((Detail.beq_iff.mp heq).1.trans hname)
      rw [if_neg hnew]
      simp [hname]
    · have hrest : ∀ x ∈ seen ++ [d], x.name ≠ name := by
        simpa [or_imp, forall_and, hname] using hseen
      split
      · simp [hname, ih hseen]
      · simp [hname, ih hrest]

theorem detail?_removeDuplicates (c : Contact) (name : String) :
    c.removeDuplicates.detail? name = c.detail? name :=
  find?_distinctAfter name (by simp) c.details

theorem removeDuplicates_save (c : Contact) (d : Detail) :
    (c.save d).removeDuplicates =
      if c.removeDuplicates.details.any (· == d) then c.removeDuplicates
      else c.removeDuplicates.save d := by
  have happend : distinctAfter [] (c.details ++ [d]) =
      distinctAfter [] c.details ++ distinctAfter (distinctAfter [] c.details) [d] := by
    rw [distinctAfter_append, List.nil_append]
  split
  · rename_i hany
    have hnone : distinctAfter (distinctAfter [] c.details) [d] = [] := if_pos hany
    simp only [removeDuplicates, save, happend, hnone, List.append_nil]
  · rename_i hnew
    have hone : distinctAfter (distinctAfter [] c.details) [d] = [d] := if_neg hnew
    simp only [removeDuplicates, save, happend, hone]

/-! ## Telling facts -/

/-- Adds a fact to a contact. A detail of which there may be one is not added when another of its
name is there. -/
def tell (c : Contact) : Fact → Contact
  | .detail d => c.save d
  | .unique d => (c.saveUnique d).toOption.getD c
  | .relationship r => c.relate r

/-- Contacts that differ in duplicates alone still do when a fact is added to both. -/
theorem removeDuplicates_tell_congr (h : c.removeDuplicates = c'.removeDuplicates) (f : Fact) :
    (c.tell f).removeDuplicates = (c'.tell f).removeDuplicates := by
  cases f with
  | detail d => simp only [tell, removeDuplicates_save, h]
  | unique d =>
    have hname : c.detail? d.name = c'.detail? d.name := by
      rw [← detail?_removeDuplicates, h, detail?_removeDuplicates]
    simp only [tell, getD_saveUnique, hname]
    split
    · exact h
    · simp only [removeDuplicates_save, h]
  | relationship r =>
    simp only [removeDuplicates, mk.injEq] at h
    simp only [tell, relate, h.2.2]
    split <;> simp [removeDuplicates, h]

theorem removeDuplicates_foldl_tell_congr (h : c.removeDuplicates = c'.removeDuplicates)
    (fs : List Fact) :
    (fs.foldl tell c).removeDuplicates = (fs.foldl tell c').removeDuplicates := by
  induction fs generalizing c c' with
  | nil => exact h
  | cons f fs ih => exact ih (removeDuplicates_tell_congr h f)

/-! ## Known facts -/

/-- The contact has the detail, a detail of the name of which it may have one, or the
relationship. -/
def Knows (c : Contact) : Fact → Prop
  | .detail d => d ∈ c.details
  | .unique d => (c.detail? d.name).isSome = true
  | .relationship r => r ∈ c.relationships

/-- A fact that is told is known. -/
theorem knows_tell (c : Contact) (f : Fact) : (c.tell f).Knows f := by
  cases f with
  | detail d => simp [tell, Knows, save]
  | unique d =>
    simp only [tell, Knows, getD_saveUnique]
    split
    · assumption
    · simp [detail?, save, List.find?_append]
  | relationship r =>
    simp only [tell, Knows, relate]
    split
    · rename_i hmem
      exact List.contains_iff_mem.mp hmem
    · simp

theorem details_prefix_tell (c : Contact) (f : Fact) : c.details <+: (c.tell f).details := by
  cases f with
  | detail d => exact List.prefix_append ..
  | unique d =>
    simp only [tell, getD_saveUnique]
    split
    · exact List.prefix_rfl
    · exact List.prefix_append ..
  | relationship r =>
    simp only [tell, relate]
    split <;> exact List.prefix_rfl

theorem relationships_prefix_tell (c : Contact) (f : Fact) :
    c.relationships <+: (c.tell f).relationships := by
  cases f with
  | detail d => exact List.prefix_rfl
  | unique d =>
    simp only [tell, getD_saveUnique]
    split <;> exact List.prefix_rfl
  | relationship r =>
    simp only [tell, relate]
    split
    · exact List.prefix_rfl
    · exact List.prefix_append ..

/-- What is known stays known. -/
theorem Knows.tell (h : c.Knows f) (g : Fact) : (c.tell g).Knows f := by
  have hdetails := details_prefix_tell c g
  cases f with
  | detail d => exact hdetails.subset h
  | unique d =>
    obtain ⟨more, hmore⟩ := hdetails
    simp only [Knows, detail?, ← hmore, List.find?_append] at h ⊢
    rw [Option.isSome_or, h, Bool.true_or]
  | relationship r => exact (relationships_prefix_tell c g).subset h

theorem Knows.foldl_tell (h : c.Knows f) (fs : List Fact) : (fs.foldl Contact.tell c).Knows f :=
  List.foldlRecOn (motive := fun c : Contact => c.Knows f) fs _ h fun _ h g _ => h.tell g

/-- All facts that are told are known in the end. -/
theorem knows_foldl_tell (c : Contact) (h : f ∈ fs) : (fs.foldl tell c).Knows f := by
  induction fs generalizing c with
  | nil => exact absurd h List.not_mem_nil
  | cons g fs ih =>
    rcases List.mem_cons.mp h with rfl | h
    · exact (knows_tell c f).foldl_tell fs
    · exact ih (c.tell g) h

/-- A known fact adds no more than a duplicate. -/
theorem removeDuplicates_tell (h : c.Knows f) (hself : ∀ d, f = .detail d → (d == d) = true) :
    (c.tell f).removeDuplicates = c.removeDuplicates := by
  cases f with
  | detail d =>
    have hany : c.removeDuplicates.details.any (· == d) = true :=
      any_distinctAfter [] (hself d rfl) h
    rw [tell, removeDuplicates_save, if_pos hany]
  | unique d =>
    have hname : (c.detail? d.name).isSome = true := h
    rw [tell, getD_saveUnique, if_pos hname]
  | relationship r => rw [tell, relate, if_pos (List.contains_iff_mem.mpr h)]

/-- Known facts add no more than duplicates. -/
theorem removeDuplicates_foldl_tell (h : ∀ f ∈ fs, c.Knows f)
    (hself : ∀ d, .detail d ∈ fs → (d == d) = true) :
    (fs.foldl tell c).removeDuplicates = c.removeDuplicates := by
  induction fs generalizing c with
  | nil => rfl
  | cons f fs ih =>
    rw [List.forall_mem_cons] at h
    have hrest : ∀ g ∈ fs, (c.tell f).Knows g := fun g hg => (h.2 g hg).tell f
    rw [List.foldl_cons, ih hrest fun d hd => hself d (List.mem_cons_of_mem f hd)]
    exact removeDuplicates_tell h.1 fun d hd => hself d (hd ▸ List.mem_cons_self)

end Contact

end ContactGraph
