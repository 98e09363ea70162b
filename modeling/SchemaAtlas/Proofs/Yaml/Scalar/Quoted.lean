import SchemaAtlas.Proofs.Digits
import SchemaAtlas.Proofs.Yaml.Scalar.Gap
import Mathlib.Algebra.GroupWithZero.Nat

/-!
# Texts between quotes are read back

Between single quotes only the quote itself is written another way, and lines
behind the first are set behind blanks that do not count.  Between double
quotes every other letter that cannot stand as it is has an escape, by name or
by its number.
-/

namespace SchemaAtlas.Yaml.Scalar

variable
    {letter : Char}
    {letters rest : List Char}
    {gap : Gap}
    {lineStart : Bool}
    {width rounds : Nat}

/-! ## Single quotes -/

/-- What has to hold of a text so that it may stand between single quotes. -/
structure IsSingle (letters : List Char) : Prop where
  printable : ∀ letter ∈ letters, isPrintable letter = true
  oneLine : '\n' ∉ letters
  noMargin : hasPair isBreak isSpace letters = false
  noTrail : hasPair isSpace isBreak letters = false

theorem isSingle_of_allowsSingle
    (allowed : allowsSingle letters = true) (oneLine : '\n' ∉ letters) :
    IsSingle letters := by
  simp only [allowsSingle, needsEscapes, Bool.and_eq_true, Bool.not_eq_true',
    List.any_eq_false, Bool.not_eq_false] at allowed
  obtain ⟨⟨noMargin, noTrail⟩, printable⟩ := allowed
  exact ⟨printable, oneLine, noMargin, noTrail⟩

theorem hasPair_cons_eq_false_iff {first second : Char → Bool} :
    hasPair first second (letter :: rest) = false ↔
      (first letter = true → ∀ next ∈ rest.head?, second next = false) ∧
        hasPair first second rest = false := by
  cases rest with
  | nil => simp [hasPair]
  | cons next rest => simp [hasPair]

/-- Blanks at the start of a line do not count. -/
theorem readSingleQuoted_blanks
    (broken : gap.isBroken = true) (count : Nat) :
    readSingleQuoted gap lineStart (blanks (count + 1) ++ rest) =
      readSingleQuoted gap false rest := by
  have step (lineStart : Bool) (rest : List Char) :
      readSingleQuoted gap lineStart (' ' :: rest) =
        readSingleQuoted gap false rest := by
    cases gap with
    | none => cases broken
    | blanks letters => cases broken
    | breaks first further =>
        rw [readSingleQuoted]
        · simp [isBlank, Gap.addBlank]
        · simp
        · simp
  induction count generalizing lineStart with
  | zero => exact step lineStart rest
  | succ count induction =>
      rw [blanks, List.replicate_succ, List.cons_append, step]
      exact induction

/-- What is put in front of a line does not count. -/
theorem readSingleQuoted_margin
    (positive : 0 < width)
    (started : lineStart = true → gap.isBroken = true) :
    readSingleQuoted gap lineStart
        ((if gap.isBroken then blanks width else []) ++ rest) =
      readSingleQuoted gap false rest := by
  cases broken : gap.isBroken with
  | true =>
      obtain ⟨count, rfl⟩ : ∃ count, width = count + 1 := ⟨width - 1, by omega⟩
      exact readSingleQuoted_blanks broken count
  | false =>
      have inLine : lineStart = false :=
        Bool.eq_false_iff.2 fun isStart => by simp [started isStart] at broken
      rw [inLine]
      rfl

theorem readSingleQuoted_break
    (printable : isPrintable letter = true) (ends : isBreak letter = true) :
    readSingleQuoted gap lineStart (letter :: rest) =
      readSingleQuoted (gap.addBreak letter) true rest := by
  have notBlank : isBlank letter = false :=
    Bool.eq_false_iff.2 fun blank => by
      rw [isBreak_of_isBlank blank] at ends
      cases ends
  rw [readSingleQuoted]
  · simp only [notBlank, ends, if_true, Bool.false_eq_true, if_false]
    rw [read_break_of_isPrintable printable ends]
  · rintro other rfl
    exact absurd rfl (isPrintable_ne printable rfl)
  · rintro other rfl
    cases ends

theorem readSingleQuoted_letter
    (printable : isPrintable letter = true)
    (inLine : isBreak letter = false) (inText : letter ≠ ' ')
    (notQuote : letter ≠ '\'') :
    readSingleQuoted gap false (letter :: rest) =
      (readSingleQuoted .none false rest).map
        (withFront (gap.letters ++ [letter])) := by
  have notBlank : isBlank letter = false := isBlank_eq_false printable inText
  rw [readSingleQuoted]
  · simp [notBlank, inLine, notQuote]
  · rintro other rfl
    exact absurd rfl (isPrintable_ne printable rfl)
  · rintro other rfl
    exact absurd rfl notQuote

theorem readSingleQuoted_close (alone : rest.head? ≠ some '\'') :
    readSingleQuoted gap false ('\'' :: rest) = .ok (gap.letters, rest) := by
  rw [readSingleQuoted]
  · simp [isBlank, isBreak]
  · simp
  · rintro other - rfl
    exact alone rfl

/-- What may follow a gap, so that nothing of the gap is lost. -/
structure Gap.Before (gap : Gap) (letters : List Char) : Prop where
  keeps : gap.Keeps
  noTrail : gap.isOpen = true → gap.isBroken = false →
    ∀ next ∈ letters.head?, isBreak next = false
  noMargin : gap.isBroken = true → ∀ next ∈ letters.head?, isSpace next = false

theorem Gap.before_none (letters : List Char) : Gap.none.Before letters where
  keeps := Gap.keeps_of_unbroken rfl
  noTrail := by simp [Gap.isOpen]
  noMargin := by simp [Gap.isBroken]

/-- The letters between single quotes are read one by one. -/
theorem readSingleQuoted_letters
    (positive : 0 < width)
    (alone : rest.head? ≠ some '\'')
    (single : IsSingle letters)
    (before : gap.Before letters)
    (started : lineStart = true → gap.isBroken = true) :
    readSingleQuoted gap lineStart
        (singleQuotedLetters width gap.isBroken letters ++ '\'' :: rest) =
      .ok (gap.letters ++ letters, rest) := by
  induction letters generalizing gap lineStart with
  | nil =>
      rw [singleQuotedLetters, readSingleQuoted_margin positive started,
        readSingleQuoted_close alone, List.append_nil]
  | cons letter later induction =>
      obtain ⟨keeps, noTrail, noMargin⟩ := before
      obtain ⟨printable, oneLine, noMarginLater, noTrailLater⟩ := single
      rw [hasPair_cons_eq_false_iff] at noMarginLater noTrailLater
      simp only [List.mem_cons, not_or, forall_eq_or_imp] at printable oneLine
      have singleLater : IsSingle later :=
        ⟨printable.2, oneLine.2, noMarginLater.2, noTrailLater.2⟩
      -- Behind a letter of the text nothing is kept back.
      have closed : readSingleQuoted .none false
          (singleQuotedLetters width false later ++ '\'' :: rest) =
            .ok (later, rest) :=
        induction singleLater (Gap.before_none later) (by simp)
      rw [singleQuotedLetters]
      cases ends : isBreak letter with
      | true =>
          have noBlanks : gap.isOpen = true → gap.isBroken = true := by
            intro isOpen
            cases broken : gap.isBroken with
            | true => rfl
            | false =>
                have inLine := noTrail isOpen broken letter rfl
                rw [ends] at inLine
                cases inLine
          have separator : letter ≠ '\n' := Ne.symm oneLine.1
          have beforeLater : (gap.addBreak letter).Before later :=
            { keeps := Gap.keeps_addBreak keeps separator
              noTrail := by simp
              noMargin := fun _ => noMarginLater.1 ends }
          have read := induction singleLater beforeLater
            (fun _ : true = true => Gap.isBroken_addBreak)
          rw [Gap.isBroken_addBreak,
            Gap.letters_addBreak keeps separator noBlanks] at read
          rw [if_pos rfl, List.cons_append,
            readSingleQuoted_break printable.1 ends, read]
          simp
      | false =>
          rw [if_neg Bool.false_ne_true, List.append_assoc, List.append_assoc,
            readSingleQuoted_margin positive started]
          by_cases quote : letter = '\''
          · subst quote
            rw [if_pos rfl, List.cons_append, List.cons_append, List.nil_append,
              readSingleQuoted, closed]
            simp [Except.map, withFront]
          · rw [if_neg quote, List.cons_append, List.nil_append]
            by_cases space : letter = ' '
            · subst space
              have unbroken : gap.isBroken = false :=
                Bool.eq_false_iff.2 fun broken => by
                  cases noMargin broken ' ' rfl
              have beforeLater : (gap.addBlank ' ').Before later :=
                { keeps := Gap.keeps_of_unbroken (by simp [unbroken])
                  noTrail := fun _ _ => noTrailLater.1 rfl
                  noMargin := by simp [unbroken] }
              have read := induction singleLater beforeLater
                (fun started : false = true => by cases started)
              rw [Gap.isBroken_addBlank, unbroken,
                Gap.letters_addBlank unbroken] at read
              rw [readSingleQuoted]
              · simpa [isBlank] using read
              · simp
              · simp
            · rw [readSingleQuoted_letter printable.1 ends space quote, closed]
              simp [Except.map, withFront]

/-- A text between single quotes is read up to the closing one. -/
theorem readSingleQuoted_of_isSingle
    (positive : 0 < width)
    (alone : rest.head? ≠ some '\'')
    (single : IsSingle letters) :
    readSingleQuoted .none false
        (singleQuotedLetters width false letters ++ '\'' :: rest) =
      .ok (letters, rest) :=
  readSingleQuoted_letters positive alone single (Gap.before_none letters)
    (by simp)

/-! ## Double quotes -/

/-- What a letter between double quotes does to what has been read. -/
def readBehind (rounds : Nat) (gap : Gap) (letter : Char) (rest : List Char) :
    Except Fault (List Char × List Char) :=
  if letter = ' ' then readDoubleQuoted rounds (gap.addBlank letter) false rest
  else
    (readDoubleQuoted rounds .none false rest).map
      (withFront (gap.letters ++ [letter]))

/-- Whether something that is written between double quotes stands for a letter,
whatever is around it. -/
def StandsFor (written : List Char) (letter : Char) : Prop :=
  ∀ rounds gap rest,
    readDoubleQuoted (rounds + 1) gap false (written ++ rest) =
      readBehind rounds gap letter rest

theorem standsFor_self
    (printable : isPrintable letter = true) (inLine : isBreak letter = false)
    (notQuote : letter ≠ '"') (notEscape : letter ≠ '\\') :
    StandsFor [letter] letter := by
  intro rounds gap rest
  rw [List.singleton_append, readDoubleQuoted.eq_def, readBehind]
  simp only [takeBreak_of_not_isBreak inLine,
    isBlank_iff_of_isPrintable printable]
  simp [notQuote, notEscape]

/-- An escape with a name. -/
theorem standsFor_of_named
    {kind : Char}
    (inText : letter ≠ ' ')
    (inLine : isBreak kind = false)
    (named : escape? kind = some letter) :
    StandsFor ['\\', kind] letter := by
  intro rounds gap rest
  have kept : takeBreak ('\\' :: kind :: rest) = none :=
    takeBreak_of_not_isBreak rfl _
  rw [List.cons_append, List.singleton_append, readDoubleQuoted.eq_def]
  simp only [kept, takeBreak_of_not_isBreak inLine, named]
  simp [isBlank, readBehind, inText]

theorem standsFor_of_code
    {code : Nat} {kind : Char}
    (isCode : letter.toNat = code)
    (inText : Char.ofNat code ≠ ' ')
    (inLine : isBreak kind = false)
    (named : escape? kind = some (Char.ofNat code)) :
    StandsFor ['\\', kind] letter := by
  have isLetter : Char.ofNat code = letter := by
    rw [← isCode, Char.ofNat_toNat]
  rw [isLetter] at inText named
  exact standsFor_of_named inText inLine named

theorem length_hexDigits
    {value : Nat} (positive : 0 < width) (fits : value < 16 ^ width) :
    (hexDigits width value).length = width := by
  have few : (Nat.toDigits 16 value).length ≤ width :=
    (Nat.length_toDigits_le_iff (by decide) positive).2 fits
  simp only [hexDigits, List.length_append, List.length_replicate,
    List.length_map]
  omega

/-- An escape with a number. -/
theorem standsFor_of_numbered
    {kind : Char}
    (inText : letter ≠ ' ')
    (inLine : isBreak kind = false)
    (unnamed : escape? kind = none)
    (counted : escapeWidth? kind = some width)
    (positive : 0 < width)
    (fits : letter.toNat < 16 ^ width) :
    StandsFor ('\\' :: kind :: hexDigits width letter.toNat) letter := by
  intro rounds gap rest
  have kept :
      takeBreak ('\\' :: kind :: (hexDigits width letter.toNat ++ rest)) =
        none :=
    takeBreak_of_not_isBreak rfl _
  have counted :
      escapeWidth? kind = some (hexDigits width letter.toNat).length := by
    rw [length_hexDigits positive fits, counted]
  have numbered : Text.natural? 16 (hexDigits width letter.toNat) =
      some letter.toNat :=
    Text.natural?_hexadecimal _ _
  have enough : ¬ (hexDigits width letter.toNat ++ rest).length <
      (hexDigits width letter.toNat).length := by
    simp
  rw [List.cons_append, List.cons_append, readDoubleQuoted.eq_def]
  simp only [kept, takeBreak_of_not_isBreak inLine, unnamed, counted,
    if_neg enough, List.take_left, List.drop_left, numbered, Option.bind_some,
    Text.numbered?_toNat]
  simp [isBlank, readBehind, inText]

/-- Every letter is read back from what is written for it. -/
theorem standsFor_doubleQuotedLetter (letter : Char) :
    StandsFor (doubleQuotedLetter letter) letter := by
  have inside : letter.toNat < 0x110000 := by
    have valid : letter.toNat < 0xD800 ∨
        0xDFFF < letter.toNat ∧ letter.toNat < 0x110000 := letter.valid
    omega
  rw [doubleQuotedLetter]
  refine iteInduction (motive := (StandsFor · letter)) (fun plain => ?_)
    fun special => ?_
  · simp only [Bool.and_eq_true, Bool.not_eq_true', decide_eq_true_eq] at plain
    obtain ⟨⟨⟨printable, inLine⟩, notQuote⟩, notEscape⟩ := plain
    exact standsFor_self printable inLine notQuote notEscape
  have inText : letter ≠ ' ' := by
    rintro rfl
    exact special rfl
  -- The escapes with a name, each for one code.
  iterate 15
    refine iteInduction (motive := (StandsFor · letter))
      (fun isCode => standsFor_of_code isCode (by decide) rfl rfl) fun _ => ?_
  refine iteInduction (motive := (StandsFor · letter)) (fun fits => ?_)
    fun _ => ?_
  · exact standsFor_of_numbered inText rfl rfl rfl (by decide)
      (Nat.lt_succ_of_le fits)
  refine iteInduction (motive := (StandsFor · letter)) (fun fits => ?_)
    fun _ => ?_
  · exact standsFor_of_numbered inText rfl rfl rfl (by decide)
      (Nat.lt_succ_of_le fits)
  · exact standsFor_of_numbered inText rfl rfl rfl (by decide)
      (Nat.lt_trans inside (by decide))

theorem doubleQuotedLetter_ne_nil (letter : Char) :
    doubleQuotedLetter letter ≠ [] := by
  rw [doubleQuotedLetter]
  iterate 18
    refine iteInduction (motive := (· ≠ [])) (fun _ => by simp) fun _ => ?_
  simp

theorem length_le_flatMap_doubleQuotedLetter (letters : List Char) :
    letters.length ≤ (letters.flatMap doubleQuotedLetter).length := by
  induction letters with
  | nil => exact Nat.le_refl _
  | cons letter later induction =>
      have present := List.length_pos_iff.2 (doubleQuotedLetter_ne_nil letter)
      rw [List.flatMap_cons, List.length_append, List.length_cons]
      omega

/-- A text between double quotes is read up to the closing one. -/
theorem readDoubleQuoted_letters
    (unbroken : gap.isBroken = false)
    (enough : letters.length < rounds) :
    readDoubleQuoted rounds gap false
        (letters.flatMap doubleQuotedLetter ++ '"' :: rest) =
      .ok (gap.letters ++ letters, rest) := by
  induction letters generalizing gap rounds with
  | nil =>
      obtain ⟨rounds, rfl⟩ : ∃ earlier, rounds = earlier + 1 :=
        ⟨rounds - 1, by simp at enough; omega⟩
      rw [List.flatMap_nil, List.nil_append, readDoubleQuoted.eq_def]
      simp [takeBreak_of_not_isBreak, isBlank, isBreak]
  | cons letter later induction =>
      obtain ⟨rounds, rfl⟩ : ∃ earlier, rounds = earlier + 1 :=
        ⟨rounds - 1, by simp at enough; omega⟩
      have enoughLater : later.length < rounds := by
        simpa using enough
      rw [List.flatMap_cons, List.append_assoc,
        standsFor_doubleQuotedLetter letter, readBehind]
      split
      · rw [induction (by simp [unbroken]) enoughLater,
          Gap.letters_addBlank unbroken]
        simp
      · rw [induction rfl enoughLater]
        simp [Except.map, withFront, Gap.letters]

end SchemaAtlas.Yaml.Scalar
