import SchemaGuide.Explorer.Search
import SchemaGuide.Proofs.Text.FinalSigma

/-! What a search term matches. Names and terms are compared in lower case, each of them written as
a whole. A name that holds a term is to match it, and so is every name that matches a longer term.
Both hold exactly for the terms that settle the forms of their capital sigmas: any other term, such
as one that ends in a capital sigma, is written with the form that the sigma has at its own end,
though the word may go on in the name. -/
namespace SchemaGuide.Explorer

open Text (EachSigma IsSettled lowercase)

theorem ignoringCase_iff (name term : String) :
    ignoringCase name term = true ↔ lowercase term.toList <:+: lowercase name.toList := by
  rw [ignoringCase, Text.occursIn_iff]

theorem ignoringCase_self (name : String) : ignoringCase name name = true :=
  (ignoringCase_iff name name).mpr (List.infix_refl _)

/-- A term that is matched by the names that hold it settles its sigmas: a letter in front of the
term and a letter behind it are enough to tell. -/
theorem isSettled_of_matches {term : String}
    (matched : ∀ name : String, term.toList <:+: name.toList → ignoringCase name term = true) :
    IsSettled term.toList := by
  have front := matched (String.ofList ('a' :: term.toList)) (by
    rw [String.toList_ofList]
    exact (List.suffix_cons 'a' _).isInfix)
  have back := matched (String.ofList (term.toList ++ ['a'])) (by
    rw [String.toList_ofList]
    exact (List.prefix_append _ ['a']).isInfix)
  rw [ignoringCase_iff, String.toList_ofList] at front back
  exact Text.isSettled_of_lowercase_infix front back

/-- **Matching goes with containing.** Every name that holds a term matches it exactly if the term
settles its sigmas, and every name that matches a longer term matches the term under the same
condition. Terms without a capital sigma meet it. For any other term, a name matches it that holds
it at a place where each of its sigmas has the form that it has in the term alone. -/
theorem containing_is_matching_iff (term : String) :
    ((∀ name : String, term.toList <:+: name.toList → ignoringCase name term = true) ↔
      IsSettled term.toList) ∧
    ((∀ name longer : String, ignoringCase name longer = true →
        term.toList <:+: longer.toList → ignoringCase name term = true) ↔
      IsSettled term.toList) ∧
    ((∀ c ∈ term.toList, c.toNat ≠ 0x3A3) → IsSettled term.toList) ∧
    ∀ before after : String,
      EachSigma (fun near far => Text.sigmaWithin before.toList.reverse after.toList near far =
        Text.lowercaseSigma near far) [] term.toList →
      ignoringCase (before ++ term ++ after) term = true := by
  have holds (settled : IsSettled term.toList) (name : String)
      (inside : term.toList <:+: name.toList) : ignoringCase name term = true :=
    (ignoringCase_iff name term).mpr (settled.lowercase_infix inside)
  refine ⟨⟨isSettled_of_matches, holds⟩, ⟨?_, ?_⟩, ?_, ?_⟩
  · intro shortens
    apply isSettled_of_matches
    intro name inside
    exact shortens name name (ignoringCase_self name) inside
  · intro settled name longer matched inside
    rw [ignoringCase_iff] at matched ⊢
    exact (settled.lowercase_infix inside).trans matched
  · intro none
    exact Text.eachSigma_of_none _ _ none
  · intro before after same
    rw [ignoringCase_iff, String.toList_append, String.toList_append]
    exact Text.lowercase_infix same

/-- A name that goes on behind a capital sigma does not match the term that ends there, though it
holds the term and matches itself. -/
theorem name_behind_sigma_is_missed :
    "ΑΣ".toList <:+: "ΑΣΑ".toList ∧ ignoringCase "ΑΣΑ" "ΑΣΑ" = true ∧
      ignoringCase "ΑΣΑ" "ΑΣ" = false := by
  refine ⟨?_, ignoringCase_self "ΑΣΑ", ?_⟩
  · exact ⟨[], ['Α'], rfl⟩
  · decide +kernel

end SchemaGuide.Explorer
