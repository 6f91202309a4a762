import SchemaGuide.Text.Lowercase
import SchemaGuide.Text.Substring

/-! Lower case of a part of a text. Of all characters only the capital sigma looks around, so a part
is written in lower case as it would be alone wherever each of its capital sigmas takes the same
form. The part settles the forms by itself if what is reached from each of them inside of the part
leaves nothing to what stands around it. If it does not, a letter in front of the part or one behind
it changes a form, and then there are fewer of one form than the part alone has. -/
namespace SchemaGuide.Text

/-- The sigma inside of a word. -/
def innerSigma : Char := Char.ofNat 0x3C3

/-- The sigma at the end of a word. -/
def finalSigma : Char := Char.ofNat 0x3C2

/-- A text holds another one if that is a part of it. -/
theorem occursIn_iff (part chars : List Char) :
    occursIn part chars = true ↔ part <:+: chars := by
  induction chars with
  | nil => rw [occursIn, List.isEmpty_iff, List.infix_nil]
  | cons c rest ih =>
    rw [occursIn, startsWith, Bool.or_eq_true, List.isPrefixOf_iff_prefix, ih, List.infix_cons_iff]

/-! ## What is reached -/

/-- Whether there is a character that is not passed over. -/
def settles (chars : List Char) : Bool :=
  chars.any fun c => !caseIgnorableRanges.has c

/-- The first part that has such a character decides what is reached. -/
theorem reachesCased_append (chars more : List Char) :
    reachesCased (chars ++ more) =
      if settles chars then reachesCased chars else reachesCased more := by
  induction chars with
  | nil => simp [settles]
  | cons c rest ih =>
    by_cases passed : caseIgnorableRanges.has c = true
    · simpa [reachesCased, settles, passed] using ih
    · simp [reachesCased, settles, passed]

/-- Where all characters are passed over, nothing is reached. -/
theorem reachesCased_of_not_settles {chars : List Char} (passed : settles chars = false) :
    reachesCased chars = false := by
  have alone := reachesCased_append chars []
  rw [List.append_nil, passed, if_neg Bool.false_ne_true] at alone
  exact alone

theorem lowercaseSigma_eq (near far : List Char) :
    lowercaseSigma near far =
      if reachesCased near && !reachesCased far then finalSigma else innerSigma :=
  rfl

theorem lowercaseSigma_eq_final_iff (near far : List Char) :
    lowercaseSigma near far = finalSigma ↔ reachesCased near = true ∧ reachesCased far = false := by
  have apart : innerSigma ≠ finalSigma := by decide
  rw [lowercaseSigma_eq]
  cases reachesCased near <;> cases reachesCased far <;> simp [apart]

theorem lowercaseSigma_eq_inner_iff (near far : List Char) :
    lowercaseSigma near far = innerSigma ↔ reachesCased near = false ∨ reachesCased far = true := by
  have apart : finalSigma ≠ innerSigma := by decide
  rw [lowercaseSigma_eq]
  cases reachesCased near <;> cases reachesCased far <;> simp [apart]

/-! ## Settled forms -/

/-- The characters around a capital sigma settle its form: a letter with case is reached behind it,
or what is reached before it has none, or something is reached on both sides. -/
def SigmaSettled (near far : List Char) : Prop :=
  reachesCased far = true ∨
    settles near = true ∧ (reachesCased near = false ∨ settles far = true)

/-- A form that is settled stays the same in every text around. -/
theorem sigma_of_settled {near far : List Char} (settled : SigmaSettled near far)
    (before after : List Char) :
    lowercaseSigma (near ++ before) (far ++ after) = lowercaseSigma near far := by
  have behind (settled : settles far = true) : reachesCased (far ++ after) = reachesCased far := by
    rw [reachesCased_append, if_pos settled]
  rcases settled with cased | ⟨front, uncased | back⟩
  · have back : settles far = true := by
      apply Bool.of_not_eq_false
      intro passed
      rw [reachesCased_of_not_settles passed] at cased
      cases cased
    rw [lowercaseSigma, lowercaseSigma, behind back, cased, Bool.not_true, Bool.and_false,
      Bool.and_false]
  · rw [lowercaseSigma, lowercaseSigma, reachesCased_append near, if_pos front, uncased,
      Bool.false_and, Bool.false_and]
  · rw [lowercaseSigma, lowercaseSigma, behind back, reachesCased_append near, if_pos front]

/-- A form is settled if neither a letter in front of the text makes it the one at the end of a word
nor a letter behind the text the one inside. -/
theorem settled_of_forms {near far : List Char}
    (front : lowercaseSigma near far = innerSigma →
      lowercaseSigma (near ++ ['a']) far = innerSigma)
    (back : lowercaseSigma near far = finalSigma →
      lowercaseSigma near (far ++ ['a']) = finalSigma) :
    SigmaSettled near far := by
  have letter : reachesCased ['a'] = true := by decide +kernel
  rw [lowercaseSigma_eq_inner_iff, lowercaseSigma_eq_inner_iff, reachesCased_append, letter]
    at front
  rw [lowercaseSigma_eq_final_iff, lowercaseSigma_eq_final_iff, reachesCased_append far, letter]
    at back
  by_cases cased : reachesCased far = true
  · exact .inl cased
  · refine .inr ?_
    by_cases before : settles near = true
    · refine ⟨before, ?_⟩
      by_cases uncased : reachesCased near = false
      · exact .inl uncased
      · obtain ⟨_, kept⟩ := back ⟨Bool.of_not_eq_false uncased, Bool.eq_false_iff.mpr cased⟩
        by_cases behind : settles far = true
        · exact .inr behind
        · rw [if_neg behind] at kept
          cases kept
    · have nothing := reachesCased_of_not_settles (Bool.eq_false_iff.mpr before)
      rw [if_neg before] at front
      rcases front (.inl nothing) with other | cased'
      · cases other
      · exact absurd cased' cased

/-! ## Each sigma of a text -/

/-- What holds of the characters around each capital sigma, those before it the nearest first. -/
def EachSigma (holds : List Char → List Char → Prop) (before : List Char) : List Char → Prop
  | [] => True
  | c :: rest => (c.toNat = 0x3A3 → holds before rest) ∧ EachSigma holds (c :: before) rest

/-- The text settles the form of each of its capital sigmas. -/
def IsSettled (chars : List Char) : Prop :=
  EachSigma SigmaSettled [] chars

theorem EachSigma.mono {first second : List Char → List Char → Prop} {before chars : List Char}
    (all : EachSigma first before chars)
    (implies : ∀ near far, first near far → second near far) : EachSigma second before chars := by
  induction chars generalizing before with
  | nil => trivial
  | cons c rest ih => exact ⟨fun sigma => implies _ _ (all.1 sigma), ih all.2⟩

theorem EachSigma.and {first second : List Char → List Char → Prop} {before chars : List Char}
    (one : EachSigma first before chars) (other : EachSigma second before chars) :
    EachSigma (fun near far => first near far ∧ second near far) before chars := by
  induction chars generalizing before with
  | nil => trivial
  | cons c rest ih => exact ⟨fun sigma => ⟨one.1 sigma, other.1 sigma⟩, ih one.2 other.2⟩

theorem eachSigma_of_none (holds : List Char → List Char → Prop) (before : List Char)
    {chars : List Char} (none : ∀ c ∈ chars, c.toNat ≠ 0x3A3) : EachSigma holds before chars := by
  induction chars generalizing before with
  | nil => trivial
  | cons c rest ih =>
    refine ⟨fun sigma => absurd sigma (none c List.mem_cons_self), ih _ ?_⟩
    intro other member
    exact none other (List.mem_cons_of_mem _ member)

/-! ## Lower case with given forms -/

/-- Lower case in which the characters around a capital sigma tell its form. -/
def lowercaseWith (form : List Char → List Char → Char) (before : List Char) :
    List Char → List Char
  | [] => []
  | c :: rest =>
    (if c.toNat = 0x3A3 then [form before rest] else lowercaseChar c) ++
      lowercaseWith form (c :: before) rest

section Forms

variable {first second : List Char → List Char → Char} {before chars : List Char}

theorem lowercaseFrom_eq (before chars : List Char) :
    lowercaseFrom before chars = lowercaseWith lowercaseSigma before chars := by
  induction chars generalizing before with
  | nil => rfl
  | cons c rest ih => rw [lowercaseFrom, lowercaseWith, ih]

/-- The characters before a text can as well be left to the forms. -/
theorem lowercaseWith_before (form : List Char → List Char → Char)
    (near before chars : List Char) :
    lowercaseWith form (near ++ before) chars =
      lowercaseWith (fun near far => form (near ++ before) far) near chars := by
  induction chars generalizing near with
  | nil => rfl
  | cons c rest ih =>
    rw [lowercaseWith, lowercaseWith, ← ih (c :: near)]
    rfl

/-- So can the characters behind it. -/
theorem lowercaseWith_append (form : List Char → List Char → Char)
    (before chars after : List Char) :
    lowercaseWith form before (chars ++ after) =
      lowercaseWith (fun near far => form near (far ++ after)) before chars ++
        lowercaseWith form (chars.reverse ++ before) after := by
  induction chars generalizing before with
  | nil => rfl
  | cons c rest ih =>
    rw [List.cons_append, lowercaseWith, lowercaseWith, ih, List.append_assoc, List.reverse_cons,
      List.append_assoc]
    rfl

theorem lowercaseWith_congr
    (same : EachSigma (fun near far => first near far = second near far) before chars) :
    lowercaseWith first before chars = lowercaseWith second before chars := by
  induction chars generalizing before with
  | nil => rfl
  | cons c rest ih =>
    rw [lowercaseWith, lowercaseWith, ih same.2]
    by_cases sigma : c.toNat = 0x3A3
    · rw [if_pos sigma, if_pos sigma, same.1 sigma]
    · rw [if_neg sigma, if_neg sigma]

/-- Where fewer sigmas have a form, it is written less often. -/
theorem count_lowercaseWith_le (x : Char)
    (fewer : ∀ near far, second near far = x → first near far = x) (before chars : List Char) :
    (lowercaseWith second before chars).count x ≤ (lowercaseWith first before chars).count x := by
  induction chars generalizing before with
  | nil => exact Nat.le_refl _
  | cons c rest ih =>
    rw [lowercaseWith, lowercaseWith, List.count_append, List.count_append]
    have behind := ih (c :: before)
    by_cases sigma : c.toNat = 0x3A3
    · rw [if_pos sigma, if_pos sigma]
      by_cases kept : second before rest = x
      · rw [kept, fewer before rest kept]
        omega
      · rw [List.count_singleton, if_neg (by simpa using kept)]
        omega
    · rw [if_neg sigma, if_neg sigma]
      omega

/-- If it is written as often all the same, none has lost it. -/
theorem eachSigma_of_count_le {x : Char}
    (fewer : ∀ near far, second near far = x → first near far = x)
    (asOften : (lowercaseWith first before chars).count x ≤
      (lowercaseWith second before chars).count x) :
    EachSigma (fun near far => first near far = x → second near far = x) before chars := by
  induction chars generalizing before with
  | nil => trivial
  | cons c rest ih =>
    rw [lowercaseWith, lowercaseWith, List.count_append, List.count_append] at asOften
    have behind := count_lowercaseWith_le x fewer (c :: before) rest
    by_cases sigma : c.toNat = 0x3A3
    · rw [if_pos sigma, if_pos sigma, List.count_singleton, List.count_singleton] at asOften
      by_cases kept : second before rest = x
      · rw [kept, fewer before rest kept] at asOften
        exact ⟨fun _ _ => kept, ih (by omega)⟩
      · have lost : (second before rest == x) = false := by simpa using kept
        rw [lost, if_neg Bool.false_ne_true] at asOften
        refine ⟨?_, ih (by omega)⟩
        intro _ had
        rw [had, if_pos (beq_self_eq_true x)] at asOften
        omega
    · rw [if_neg sigma, if_neg sigma] at asOften
      exact ⟨fun other => absurd other sigma, ih (by omega)⟩

end Forms

/-! ## Parts of a text -/

/-- The form of a capital sigma in a part with these characters around it, those before it the
nearest first. -/
def sigmaWithin (before after near far : List Char) : Char :=
  lowercaseSigma (near ++ before) (far ++ after)

/-- A part of a text has its own lower case there if its sigmas keep their forms. -/
theorem lowercase_infix {before chars after : List Char}
    (same : EachSigma (fun near far => sigmaWithin before.reverse after near far =
      lowercaseSigma near far) [] chars) :
    lowercase chars <:+: lowercase (before ++ chars ++ after) := by
  have inside : lowercaseWith (fun near far => lowercaseSigma near (far ++ after))
      before.reverse chars = lowercase chars := by
    rw [lowercase, lowercaseFrom_eq, ← lowercaseWith_congr same]
    exact lowercaseWith_before _ [] before.reverse chars
  have whole : lowercase (before ++ chars ++ after) = _ := lowercaseFrom_eq [] _
  rw [whole, List.append_assoc, lowercaseWith_append, lowercaseWith_append, List.append_nil,
    inside, ← List.append_assoc]
  exact List.infix_append ..

/-- A text that settles its forms has its own lower case in every text that holds it. -/
theorem IsSettled.lowercase_infix {part chars : List Char} (settled : IsSettled part)
    (inside : part <:+: chars) : lowercase part <:+: lowercase chars := by
  obtain ⟨before, after, rfl⟩ := inside
  exact Text.lowercase_infix
    (settled.mono fun near far here => sigma_of_settled here before.reverse after)

/-- A letter in front of a text makes no form the one inside of a word. -/
theorem inner_of_inner_behind_letter {near far : List Char}
    (inner : lowercaseSigma (near ++ ['a']) far = innerSigma) :
    lowercaseSigma near far = innerSigma := by
  have letter : reachesCased ['a'] = true := by decide +kernel
  rw [lowercaseSigma_eq_inner_iff, reachesCased_append, letter] at inner
  rw [lowercaseSigma_eq_inner_iff]
  rcases inner with uncased | cased
  · split at uncased
    · exact .inl uncased
    · cases uncased
  · exact .inr cased

/-- A letter behind a text makes no form the one at the end of a word. -/
theorem final_of_final_before_letter {near far : List Char}
    (final : lowercaseSigma near (far ++ ['a']) = finalSigma) :
    lowercaseSigma near far = finalSigma := by
  have letter : reachesCased ['a'] = true := by decide +kernel
  rw [lowercaseSigma_eq_final_iff, reachesCased_append, letter] at final
  rw [lowercaseSigma_eq_final_iff]
  obtain ⟨cased, uncased⟩ := final
  refine ⟨cased, ?_⟩
  split at uncased
  · exact uncased
  · cases uncased

/-- A text settles its forms if it has its own lower case behind a letter and in front of one: the
letter in front only takes forms inside of a word away, the letter behind only those at the end of
one, and a part cannot have more of them than the whole. -/
theorem isSettled_of_lowercase_infix {chars : List Char}
    (front : lowercase chars <:+: lowercase ('a' :: chars))
    (back : lowercase chars <:+: lowercase (chars ++ ['a'])) : IsSettled chars := by
  have own : lowercase chars = lowercaseWith lowercaseSigma [] chars := lowercaseFrom_eq [] chars
  have behind : lowercase ('a' :: chars) =
      'a' :: lowercaseWith (fun near far => lowercaseSigma (near ++ ['a']) far) [] chars := by
    rw [← lowercaseWith_before lowercaseSigma, List.nil_append, ← lowercaseFrom_eq]
    rfl
  have before : lowercase (chars ++ ['a']) =
      lowercaseWith (fun near far => lowercaseSigma near (far ++ ['a'])) [] chars ++ ['a'] :=
    (lowercaseFrom_eq [] _).trans (lowercaseWith_append lowercaseSigma [] chars ['a'])
  have inner := front.sublist.count_le innerSigma
  rw [own, behind, List.count_cons_of_ne (by decide)] at inner
  have final := back.sublist.count_le finalSigma
  rw [own, before, List.count_append, List.count_singleton, if_neg (by decide), Nat.add_zero]
    at final
  have innerKept := eachSigma_of_count_le (fun _ _ => inner_of_inner_behind_letter) inner
  have finalKept := eachSigma_of_count_le (fun _ _ => final_of_final_before_letter) final
  exact (innerKept.and finalKept).mono fun near far kept => settled_of_forms kept.1 kept.2

end SchemaGuide.Text
