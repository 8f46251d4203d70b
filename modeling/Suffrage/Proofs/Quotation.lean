/-
# Suffrage.Proofs.Quotation -- quoted text reads back

`Toml.write` puts a text between quotes in the first form that can hold it, and
`Toml.readQuoted?` finds out from the quotes which form it has.  Whatever the text, it is read back
as it was, up to its closing quotes (`Toml.readQuoted?_write`).

With escapes any text can be held (`readBasic_escapeFrom_line`, `readBasic_escapeFrom_lines`).  What
remains are the quotes in text of several lines: closing quotes may follow quotes of the text, and
the reader looks ahead up to four of them.  At most two of the text stand together unescaped, so it
never stops too early.

Without escapes a text is held if it lacks what would end it: a single quote in text of one line
(`readLiteral_append`), three of them in text of several lines (`readLiteralLines_append`).
-/
import Mathlib.Tactic.SplitIfs
import Suffrage.Toml.Written

namespace Suffrage.Toml

set_option autoImplicit false

variable {lines : Bool} {c : Char} {cs rest : List Char} {free : Nat}

/-- A character before what is read from the rest. -/
def before (c : Char) (read : Option (List Char × List Char)) : Option (List Char × List Char) :=
  read.map fun r => (c :: r.1, r.2)

@[simp] theorem before_some (c : Char) (cs rest : List Char) :
    before c (some (cs, rest)) = some (c :: cs, rest) := rfl

/-! ## Escapes -/

theorem hexDigit?_digitChar : ∀ d < 16, Text.hexDigit? (Text.digitChar d) = some d := by decide

/-- The digits of a code point.  Those above the lowest `left + 1` have been read before. -/
theorem readBasic_code {n : Nat} (left : Nat) (point : charOf? n = some c) :
    readBasic lines (.code left (n / Radix.pow 16 (left + 1)))
        (Text.fixedDigits 16 (left + 1) n ++ rest) = before c (readBasic lines .plain rest) := by
  induction left with
  | zero =>
      have units := Radix.div_pow_succ 16 n 0
      simp only [Radix.pow_zero, Nat.div_one] at units
      simp [Text.fixedDigits, readBasic, step, stepCode, Radix.pow_zero,
        hexDigit?_digitChar _ (Nat.mod_lt _ (by decide)), units, point, before]
  | succ left ih =>
      rw [Text.fixedDigits, List.cons_append, readBasic]
      simp only [step, stepCode, hexDigit?_digitChar _ (Nat.mod_lt _ (by decide : 0 < 16)),
        Nat.succ_ne_zero, if_false, Radix.div_pow_succ, Nat.add_sub_cancel]
      exact ih

theorem charOf?_toNat (small : c.toNat < 0xD800) : charOf? c.toNat = some c := by
  rw [charOf?, if_pos (.inl small), Char.ofNat_toNat]

theorem toNat_lt_of_isControl (control : isControl c = true) : c.toNat < 0x80 := by
  simp only [isControl, Bool.or_eq_true, Bool.and_eq_true, decide_eq_true_eq, beq_iff_eq] at control
  omega

/-- What has no escape is read as it is. -/
theorem stepPlain_of_unescaped (quote : c ≠ '"') (unescaped : escape? lines c = none) :
    stepPlain lines c rest = .keep c .plain := by
  unfold escape? at unescaped
  split_ifs at unescaped <;> simp_all [stepPlain]

/-- An escape is read as what it stands for. -/
theorem readBasic_of_escaped {e : List Char} (escaped : escape? lines c = some e) :
    readBasic lines .plain (e ++ rest) = before c (readBasic lines .plain rest) := by
  -- One case for each escape, in the order of the definition; only the last has digits.
  unfold escape? at escaped
  split at escaped
  next same => subst same; cases escaped; rfl
  split at escaped
  next same => subst same; cases escaped; rfl
  split at escaped
  next same => subst same; split at escaped <;> cases escaped; rfl
  split at escaped
  next same => subst same; cases escaped; rfl
  split at escaped
  next same => subst same; cases escaped; rfl
  split at escaped
  next same => subst same; cases escaped; rfl
  split at escaped
  next control =>
    cases escaped
    have small := toNat_lt_of_isControl control
    have none_yet : c.toNat / Radix.pow 16 4 = 0 :=
      Nat.div_eq_of_lt (Nat.lt_trans small (by decide))
    change readBasic lines (.code 3 0) (Text.fixedDigits 16 4 c.toNat ++ rest) = _
    rw [← none_yet]
    exact readBasic_code 3 (charOf?_toNat (Nat.lt_trans small (by decide)))
  next => cases escaped

/-- A character other than a quote reads back, escaped if need be. -/
theorem readBasic_escape (quote : c ≠ '"') :
    readBasic lines .plain ((escape? lines c).getD [c] ++ rest) =
      before c (readBasic lines .plain rest) := by
  cases escape : escape? lines c with
  | some e => exact readBasic_of_escaped escape
  | none =>
      rw [Option.getD_none, List.singleton_append, readBasic, step,
        stepPlain_of_unescaped quote escape]
      rfl

theorem escapeFrom_cons (quote : c ≠ '"') :
    escapeFrom lines free (c :: cs) =
      (escape? lines c).getD [c] ++ escapeFrom lines (if lines then 2 else 0) cs := by
  rw [escapeFrom]
  exact if_neg quote

/-! ## Text of one line between double quotes -/

/-- Every quote of the text is escaped. -/
theorem readBasic_escapeFrom_line (cs rest : List Char) :
    readBasic false .plain (escapeFrom false 0 cs ++ '"' :: rest) = some (cs, rest) := by
  induction cs with
  | nil => rfl
  | cons c cs ih =>
      by_cases quote : c = '"'
      · subst quote
        change before '"' (readBasic false .plain (escapeFrom false 0 cs ++ '"' :: rest)) = _
        rw [ih, before_some]
      · rw [escapeFrom_cons quote, List.append_assoc, readBasic_escape quote]
        simp only [Bool.false_eq_true, if_false, ih, before_some]

/-! ## Text of several lines between double quotes -/

/-- Closing quotes and the end of the line. -/
def closing (quote : Char) (rest : List Char) : List Char := quote :: quote :: quote :: '\n' :: rest

/-- An escaped text begins with a backslash, or with its first character if that needs no escape. -/
theorem exists_escapeFrom_eq_cons (lines : Bool) (free : Nat) (c : Char) (cs : List Char) :
    ∃ first later, escapeFrom lines free (c :: cs) = first :: later ∧
      (first = '\\' ∨ first = c ∧ escape? lines c = none ∧ (c = '"' → free ≠ 0)) := by
  by_cases quote : c = '"'
  · subst quote
    cases free with
    | zero => exact ⟨_, _, rfl, .inl rfl⟩
    | succ free => exact ⟨_, _, rfl, .inr ⟨rfl, rfl, fun _ => Nat.succ_ne_zero free⟩⟩
  · rw [escapeFrom_cons quote]
    cases escape : escape? lines c with
    | none => exact ⟨_, _, rfl, .inr ⟨rfl, rfl, fun same => absurd same quote⟩⟩
    | some e =>
        unfold escape? at escape
        split_ifs at escape <;> cases escape <;> exact ⟨_, _, rfl, .inl rfl⟩

/-- Where no quote is free, none is written without a backslash. -/
theorem exists_escapeFrom_zero_eq_cons (lines : Bool) (c : Char) (cs : List Char) :
    ∃ first later, escapeFrom lines 0 (c :: cs) = first :: later ∧ first ≠ '"' := by
  obtain ⟨first, later, written, starts⟩ := exists_escapeFrom_eq_cons lines 0 c cs
  refine ⟨first, later, written, ?_⟩
  rcases starts with rfl | ⟨rfl, -, busy⟩
  · decide
  · exact fun quote => busy quote rfl

theorem closeLines_of_ne {first : Char} (later : List Char) (apart : first ≠ '"') :
    closeLines (first :: later) = .keep '"' .plain ∧
      closeLines ('"' :: first :: later) = .keep '"' .plain := by
  constructor <;> unfold closeLines <;> split <;> simp_all

/-- At a quote of the text the reader keeps it, or all that is left are quotes and it takes them
with the closing ones. -/
theorem closeLines_escapeFrom (cs rest : List Char) (few : free ≤ 1) :
    closeLines (escapeFrom true free cs ++ closing '"' rest) = .keep '"' .plain ∨
      closeLines (escapeFrom true free cs ++ closing '"' rest) =
        .close ('"' :: cs) ('\n' :: rest) := by
  cases cs with
  | nil => exact .inr rfl
  | cons c cs =>
      obtain ⟨first, later, written, starts⟩ := exists_escapeFrom_eq_cons true free c cs
      by_cases quote : first = '"'
      · -- The only quote that was free: what follows it is escaped or closes the text.
        obtain ⟨rfl, rfl⟩ : c = '"' ∧ free = 1 := by
          rcases starts with slash | ⟨rfl, -, busy⟩
          · exact absurd (slash.symm.trans quote) (by decide)
          · exact ⟨quote, by have := busy quote; omega⟩
        cases cs with
        | nil => exact .inr rfl
        | cons d ds =>
            obtain ⟨second, later, written, apart⟩ := exists_escapeFrom_zero_eq_cons true d ds
            left
            change closeLines ('"' :: (escapeFrom true 0 (d :: ds) ++ closing '"' rest)) = _
            rw [written]
            exact (closeLines_of_ne _ apart).2
      · rw [written]
        exact .inl (closeLines_of_ne _ quote).1

/-- At any point of the text at most two more quotes may stand as they are. -/
theorem readBasic_escapeFrom_lines (cs rest : List Char) (few : free ≤ 2) :
    readBasic true .plain (escapeFrom true free cs ++ closing '"' rest) =
      some (cs, '\n' :: rest) := by
  induction cs generalizing free with
  | nil => rfl
  | cons c cs ih =>
      by_cases quote : c = '"'
      · subst quote
        cases free with
        | zero =>
            change before '"' (readBasic true .plain (escapeFrom true 2 cs ++ closing '"' rest)) = _
            rw [ih (Nat.le_refl 2), before_some]
        | succ free =>
            change readBasic true .plain ('"' :: (escapeFrom true free cs ++ closing '"' rest)) = _
            have step : step true .plain '"' (escapeFrom true free cs ++ closing '"' rest) =
                closeLines (escapeFrom true free cs ++ closing '"' rest) := rfl
            rw [readBasic, step]
            rcases closeLines_escapeFrom cs rest (by omega : free ≤ 1) with kept | closed
            · rw [kept]
              change before '"' _ = _
              rw [ih (by omega), before_some]
            · rw [closed]
      · rw [escapeFrom_cons quote, List.append_assoc, readBasic_escape quote]
        simp only [if_true, ih (Nat.le_refl 2), before_some]

/-! ## Text between single quotes -/

theorem readLiteral_append (rest : List Char) (quote : '\'' ∉ cs) (line : '\n' ∉ cs)
    (control : ∀ c ∈ cs, isControl c = false) :
    readLiteral (cs ++ '\'' :: rest) = some (cs, rest) := by
  induction cs with
  | nil => rfl
  | cons c cs ih =>
      obtain ⟨quoteHere, quoteLater⟩ := List.ne_and_not_mem_of_not_mem_cons quote
      obtain ⟨lineHere, lineLater⟩ := List.ne_and_not_mem_of_not_mem_cons line
      obtain ⟨controlHere, controlLater⟩ := List.forall_mem_cons.1 control
      have refused : (c = '\n' || isControl c) = false := by
        simp [lineHere.symm, controlHere]
      rw [List.cons_append, readLiteral, if_neg (by simp [refused]),
        ih quoteLater lineLater controlLater]
      · rfl
      · exact fun same => absurd same.symm quoteHere

/-- A quote is kept if two more do not follow it. -/
theorem readLiteralLines_cons (control : isControl c = false)
    (apart : c = '\'' → ∀ later, rest ≠ '\'' :: '\'' :: later) :
    readLiteralLines (c :: rest) = before c (readLiteralLines rest) := by
  rw [readLiteralLines, if_neg (by simp [control])]
  · rfl
  · exact fun _ quote same => apart quote _ same
  · exact fun _ quote same => apart quote _ same
  · exact fun _ quote same => apart quote _ same
  · rintro _ rfl
    exact absurd control (by decide)

/-- Two quotes after a quote are not both of the text. -/
theorem append_closing_ne (triple : hasTriple '\'' ('\'' :: cs) = false) (some_left : cs ≠ [])
    (more_left : cs ≠ ['\'']) (rest later : List Char) :
    cs ++ closing '\'' rest ≠ '\'' :: '\'' :: later := by
  match cs with
  | [] => exact absurd rfl some_left
  | [d] =>
      intro same
      obtain ⟨rfl, -⟩ := List.cons.inj same
      exact more_left rfl
  | d :: e :: tail =>
      intro same
      simp only [List.cons_append, List.cons.injEq] at same
      simp [hasTriple, same] at triple

theorem readLiteralLines_append (rest : List Char) (triple : hasTriple '\'' cs = false)
    (control : ∀ c ∈ cs, isControl c = false) :
    readLiteralLines (cs ++ closing '\'' rest) = some (cs, '\n' :: rest) := by
  induction cs with
  | nil => rfl
  | cons c cs ih =>
      obtain ⟨here, later⟩ := List.forall_mem_cons.1 control
      have tail : hasTriple '\'' cs = false := by
        match cs, triple with
        | [], _ => rfl
        | [_], _ => rfl
        | _ :: _ :: _, triple => exact (Bool.or_eq_false_iff.1 triple).2
      -- At the last two quotes of a text the reader takes what is left at once.
      by_cases ends : c = '\'' ∧ (cs = [] ∨ cs = ['\''])
      · obtain ⟨rfl, rfl | rfl⟩ := ends <;> rfl
      · have apart : c = '\'' → ∀ more, cs ++ closing '\'' rest ≠ '\'' :: '\'' :: more := by
          rintro rfl
          exact append_closing_ne triple (fun none_left => ends ⟨rfl, .inl none_left⟩)
            (fun last => ends ⟨rfl, .inr last⟩) rest
        rw [List.cons_append, readLiteralLines_cons here apart, ih tail later, before_some]

/-! ## Either -/

/-- A line end after the opening quotes is dropped, and the text does not begin with another. -/
theorem readQuoted?_opening {body : List Char} (start : '\n' ∉ cs → dropLineEnd body = body) :
    readQuoted? (opening '"' cs ++ body) = readBasic true .plain body ∧
      readQuoted? (opening '\'' cs ++ body) = readLiteralLines body := by
  unfold opening
  split
  · exact ⟨rfl, rfl⟩
  next outside =>
    have same := start (by simpa using outside)
    exact ⟨congrArg (readBasic true .plain) same, congrArg readLiteralLines same⟩

theorem dropLineEnd_of_ne {first : Char} (later : List Char) (feed : first ≠ '\n')
    (carriage : first ≠ '\r') : dropLineEnd (first :: later) = first :: later := by
  unfold dropLineEnd
  split <;> simp_all

theorem readQuoted?_escapedLines (cs rest : List Char) :
    readQuoted? (opening '"' cs ++ escapeAll true cs ++ closing '"' rest) =
      some (cs, '\n' :: rest) := by
  rw [List.append_assoc, (readQuoted?_opening fun noLine => ?_).1]
  · exact readBasic_escapeFrom_lines cs rest (Nat.le_refl 2)
  · cases cs with
    | nil => rfl
    | cons c cs =>
        obtain ⟨first, later, written, starts⟩ := exists_escapeFrom_eq_cons true 2 c cs
        rw [escapeAll, if_pos rfl, written, List.cons_append]
        rcases starts with rfl | ⟨rfl, unescaped, -⟩
        · exact dropLineEnd_of_ne _ (by decide) (by decide)
        · refine dropLineEnd_of_ne _ (fun feed => noLine (by simp [feed])) ?_
          rintro rfl
          exact absurd unescaped (by decide)

theorem readQuoted?_literalLines (rest : List Char) (triple : hasTriple '\'' cs = false)
    (control : ∀ c ∈ cs, isControl c = false) :
    readQuoted? (opening '\'' cs ++ cs ++ closing '\'' rest) = some (cs, '\n' :: rest) := by
  rw [List.append_assoc, (readQuoted?_opening fun noLine => ?_).2]
  · exact readLiteralLines_append rest triple control
  · cases cs with
    | nil => rfl
    | cons c cs =>
        refine dropLineEnd_of_ne _ (fun feed => noLine (by simp [feed])) ?_
        rintro rfl
        exact absurd (control _ List.mem_cons_self) (by decide)

/-- One quote and no other after it open text of one line. -/
theorem readQuoted?_single {first : Char} (later : List Char) :
    (first ≠ '"' → readQuoted? ('"' :: first :: later) = readBasic false .plain (first :: later)) ∧
      (first ≠ '\'' → readQuoted? ('\'' :: first :: later) = readLiteral (first :: later)) := by
  constructor <;> intro apart <;> unfold readQuoted? <;> split <;> simp_all [readLine?]

theorem readQuoted?_escapedLine (cs rest : List Char) :
    readQuoted? ('"' :: (escapeAll false cs ++ '"' :: '\n' :: rest)) = some (cs, '\n' :: rest) := by
  have read := readBasic_escapeFrom_line cs ('\n' :: rest)
  cases cs with
  | nil => rfl
  | cons c cs =>
      obtain ⟨first, later, written, apart⟩ := exists_escapeFrom_zero_eq_cons false c cs
      change readQuoted? ('"' :: (escapeFrom false 0 (c :: cs) ++ '"' :: '\n' :: rest)) = _
      rw [written, List.cons_append] at read ⊢
      rw [(readQuoted?_single _).1 apart, read]

theorem readQuoted?_literalLine (rest : List Char) (quote : '\'' ∉ cs) (line : '\n' ∉ cs)
    (control : ∀ c ∈ cs, isControl c = false) :
    readQuoted? ('\'' :: (cs ++ '\'' :: '\n' :: rest)) = some (cs, '\n' :: rest) := by
  have read := readLiteral_append ('\n' :: rest) quote line control
  cases cs with
  | nil => rfl
  | cons c cs =>
      rw [List.cons_append] at read ⊢
      rw [(readQuoted?_single _).2 (List.ne_of_not_mem_cons quote).symm, read]

/-- Each form is taken only for text that it can hold. -/
theorem readQuoted?_form (cs rest : List Char) :
    readQuoted? ((Form.of cs).write cs ++ '\n' :: rest) = some (cs, '\n' :: rest) := by
  have tripled_append (quote : Char) : tripled quote ++ '\n' :: rest = closing quote rest := rfl
  unfold Form.of
  simp only
  split
  · simpa [Form.write] using readQuoted?_escapedLine cs rest
  split
  next holds =>
    obtain ⟨⟨control, quote⟩, line⟩ :
        ((∀ c ∈ cs, isControl c = false) ∧ '\'' ∉ cs) ∧ '\n' ∉ cs := by
      simpa using holds
    simpa [Form.write] using readQuoted?_literalLine rest quote line control
  split
  · simpa only [Form.write, List.append_assoc, tripled_append] using
      readQuoted?_escapedLines cs rest
  split
  next holds =>
    obtain ⟨control, triple⟩ : (∀ c ∈ cs, isControl c = false) ∧ hasTriple '\'' cs = false := by
      simpa using holds
    simpa only [Form.write, List.append_assoc, tripled_append] using
      readQuoted?_literalLines rest triple control
  · cases cs.contains '\n' with
    | false => simpa [Form.write] using readQuoted?_escapedLine cs rest
    | true =>
        simpa only [Form.write, List.append_assoc, tripled_append] using
          readQuoted?_escapedLines cs rest

/-- Written text reads back, up to the end of its line. -/
theorem readQuoted?_write (s : String) (rest : List Char) :
    readQuoted? ((write s).toList ++ '\n' :: rest) = some (s.toList, '\n' :: rest) := by
  rw [write, String.toList_ofList, readQuoted?_form]

-- Two quotes of the text stand before the closing ones.
example : (write "a\n\"\"").toList = "\"\"\"\na\n\"\"\"\"\"".toList ∧
    readQuoted? ((write "a\n\"\"").toList ++ ['\n']) = some ("a\n\"\"".toList, ['\n']) := by
  decide

/-- Only what begins with a quote is read as quoted text. -/
theorem exists_eq_cons_of_readQuoted? {read : List Char × List Char}
    (quoted : readQuoted? cs = some read) : ∃ rest, cs = '"' :: rest ∨ cs = '\'' :: rest := by
  unfold readQuoted? at quoted
  split at quoted
  · exact ⟨_, .inl rfl⟩
  · exact ⟨_, .inr rfl⟩
  · unfold readLine? at quoted
    split at quoted
    · exact ⟨_, .inl rfl⟩
    · exact ⟨_, .inr rfl⟩
    · cases quoted

end Suffrage.Toml
