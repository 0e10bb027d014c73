import ContactGraph.Proofs.Filter.Leaves

/-!
# Values that a field does not allow

A text is compared with that of a filter in the store, by an expression, or here. Both give the same
truth value for any two texts and any way to compare them. A condition on a field whose allowed
texts match none of the wanted ones is therefore the constant `false` without loss : the condition
that is left out would be false of every text that the field allows (`value_matchers`).
-/

namespace ContactGraph

open Query Vocabulary

namespace Query

/-- A condition on a field without instances is the constant `false` only when no text that the
field allows matches. -/
theorem isPossible_eq_false_of_fieldMatch {s : Scope} {d : DetailDefinition} {f : FieldDefinition}
    {v : Value} {flags : MatchFlags} {n : Nat} (hinst : f.instances = [])
    (h : (fieldMatch s d f v flags n).1 = .bool false) : isPossible f v flags = false := by
  unfold fieldMatch at h
  by_cases hphone : flags.mode = .phoneNumber ∧ d.name = Names.phoneNumber
  · rw [if_pos (by simpa using hphone)] at h
    cases h
  · rw [if_neg (by simpa using hphone)] at h
    cases hpossible : isPossible f v flags with
    | false => rfl
    | true =>
      rw [hpossible, hinst] at h
      cases h

theorem any_textMatches_eq_false {f : FieldDefinition} {v : Value} {flags : MatchFlags}
    (h : isPossible f v flags = false) {text : String} (htext : text ∈ f.allowed) :
    ((wantedTexts v).any fun wanted => textMatches text wanted flags) = false := by
  rw [isPossible, Bool.or_eq_false_iff, List.any_eq_false] at h
  exact Bool.eq_false_iff.mpr (h.2 text htext)

/-- Texts are compared in the store as they are here. An expression that compares a text with that
of a filter is settled, and true just when the two match here, for any way to compare them. So when
a condition on a field that allows some texts only, and has no instances, comes to `false` because
none of them matches a text or an item of a list, nothing is lost : the condition that is left out
is false of any value in the store whose text is allowed. -/
theorem value_matchers :
    (∀ (T : Store) (rows : List Valuation) (β : Valuation) (subject : Expr) (s wanted : String)
      (flags : MatchFlags), T.value rows β subject = some (.text s) →
        T.value rows β (textExpr subject wanted flags) =
          some (.bool (textMatches s wanted flags))) ∧
    ∀ (s : Scope) (d : DetailDefinition) (f : FieldDefinition) (v : Value) (flags : MatchFlags)
      (n : Nat), f.instances = [] → v.type = .text ∨ v.type = .list →
        (fieldMatch s d f v flags n).1 = .bool false →
        ∀ (T : Store) (rows : List Valuation) (β : Valuation) (x : Node), x.str ∈ f.allowed →
          β (reachField d f n).1.value = some x →
          T.value rows β (valueExpr (reachField d f n).1.value v flags) = some (.bool false) := by
  refine ⟨fun T rows β subject s wanted flags hs => Store.value_textExpr hs wanted flags, ?_⟩
  intro s d f v flags n hinst hv hfalse T rows β x hx hβ
  have hpossible := isPossible_eq_false_of_fieldMatch hinst hfalse
  rw [Store.value_valueExpr hβ hv, any_textMatches_eq_false hpossible hx]

/-- The color of a badge, red or green. -/
def badgeColor : FieldDefinition :=
  { name := "Color", type := .text, chain := [{ iri := "urn:color" }], allowed := ["Red", "Green"] }

/-- A badge with a color. -/
def coloredBadge : DetailDefinition :=
  { DetailDefinition.ofUnique "Badge" with fields := [badgeColor] }

/-- No badge ends in blue or in pea green, as little as a green one does. -/
theorem value_matchers_badge :
    (fieldMatch ⟨{ type := .person, details := [coloredBadge] }, {}, {}⟩ coloredBadge badgeColor
      (.list ["BLUE", "Pea Green"]) { mode := .endsWith } 0).1 = .bool false ∧
    ({ triples := [] } : Store).value [] (fun _ => some (.text "Green"))
      (valueExpr (reachField coloredBadge badgeColor 0).1.value (.list ["BLUE", "Pea Green"])
        { mode := .endsWith }) = some (.bool false) := by
  have hfalse : (fieldMatch ⟨{ type := .person, details := [coloredBadge] }, {}, {}⟩ coloredBadge
      badgeColor (.list ["BLUE", "Pea Green"]) { mode := .endsWith } 0).1 = .bool false := rfl
  refine ⟨hfalse, ?_⟩
  exact value_matchers.2 _ _ _ _ _ _ rfl (.inr rfl) hfalse _ _ _ (.text "Green")
    (by decide) rfl

end Query

end ContactGraph
