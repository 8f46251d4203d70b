/-
# Suffrage.Proofs.Lines -- written lines read back as statements

A configuration is written line by line: a blank line, a header, or a name with its value.  Each of
these lines is read as one statement or as none, whatever comes after it (`readStatement?_assign`,
`readStatement?_openItem`, `readStatement?_openTable`).

`Reads cs statements` says what a whole text is read as.  A line adds its statement in front
(`Reads.line`), so a document is gone through from its end, and the fuel of the loop over the lines
is dealt with once.
-/
import Suffrage.Genesis.Document
import Suffrage.Proofs.Quotation

namespace Suffrage.Toml

set_option autoImplicit false

variable {cs name value rest : List Char} {statements : List Statement}

/-! ## Names -/

/-- A name that needs no quotes. -/
def IsBare (name : List Char) : Prop := name ≠ [] ∧ name.all isBareChar = true

instance (name : List Char) : Decidable (IsBare name) := inferInstanceAs (Decidable (_ ∧ _))

/-- A bare name begins with a bare character. -/
theorem IsBare.exists_eq_cons (bare : IsBare name) :
    ∃ first later, name = first :: later ∧ isBareChar first = true := by
  obtain ⟨some_left, all⟩ := bare
  cases name with
  | nil => exact absurd rfl some_left
  | cons first later => exact ⟨first, later, rfl, List.all_eq_true.1 all first List.mem_cons_self⟩

/-- What begins with a bare character is no quote, no header and no comment. -/
theorem ne_of_isBareChar {c other : Char} (bare : isBareChar c = true)
    (plain : isBareChar other = false) : c ≠ other := by
  rintro rfl
  rw [bare] at plain
  cases plain

theorem skipSpaces_of_isBareChar {first : Char} (later : List Char)
    (bare : isBareChar first = true) : skipSpaces (first :: later) = first :: later := by
  have blank := ne_of_isBareChar bare (by decide : isBareChar ' ' = false)
  have tab := ne_of_isBareChar bare (by decide : isBareChar '\t' = false)
  simp [skipSpaces, isSpace, blank, tab]

/-- A bare name is one step of a key. -/
theorem readStep?_name {stop : Char} (bare : IsBare name) (ends : isBareChar stop = false) :
    readStep? (name ++ stop :: rest) = some (String.ofList name, stop :: rest) := by
  obtain ⟨first, later, rfl, isBare⟩ := bare.exists_eq_cons
  have double := ne_of_isBareChar isBare (by decide : isBareChar '"' = false)
  have single := ne_of_isBareChar isBare (by decide : isBareChar '\'' = false)
  have unquoted : readLine? (first :: later ++ stop :: rest) = none := by
    unfold readLine?
    split <;> simp_all
  have all := List.all_eq_true.1 bare.2
  rw [readStep?, unquoted, List.takeWhile_append_of_pos all, List.dropWhile_append_of_pos all]
  simp [ends]

/-- A bare name is a whole key if no point follows. -/
theorem readKey?_name {stop next : Char} {more : List Char} (bare : IsBare name)
    (ends : isBareChar stop = false) (skipped : skipSpaces (stop :: rest) = next :: more)
    (noPoint : next ≠ '.') :
    readKey? maxDepth (name ++ stop :: rest) =
      some (([], String.ofList name), next :: more) := by
  obtain ⟨limit, deep⟩ : ∃ limit, maxDepth = limit + 1 := ⟨_, rfl⟩
  obtain ⟨first, later, rfl, isBare⟩ := bare.exists_eq_cons
  have visible : skipSpaces (first :: later ++ stop :: rest) = first :: later ++ stop :: rest :=
    skipSpaces_of_isBareChar _ isBare
  rw [deep, readKey?, visible, readStep?_name bare ends]
  simp only [Option.bind_eq_bind, Option.bind_some, skipped]
  split <;> simp_all

/-- In a header the bracket ends it. -/
theorem readKey?_bracketed (rest : List Char) (bare : IsBare name) :
    readKey? maxDepth (name ++ ']' :: rest) = some (([], String.ofList name), ']' :: rest) :=
  readKey?_name bare (by decide) rfl (by decide)

/-! ## Values -/

theorem readValue?_write (depth : Nat) (s : String) (rest : List Char) :
    readValue? depth ((write s).toList ++ '\n' :: rest) = some (.text s, '\n' :: rest) := by
  have quoted := readQuoted?_write s rest
  obtain ⟨body, starts⟩ := exists_eq_cons_of_readQuoted? quoted
  rcases starts with starts | starts <;>
    rw [starts] at quoted ⊢ <;> simp [readValue?, quoted]

theorem readValue?_flag (depth : Nat) (b : Bool) (rest : List Char) :
    readValue? depth ((if b then "true" else "false").toList ++ '\n' :: rest) =
      some (.flag b, '\n' :: rest) := by
  cases b <;> cases depth <;> rfl

theorem readValue?_empty (rest : List Char) :
    readValue? maxDepth ("[]".toList ++ '\n' :: rest) = some (.array false [], '\n' :: rest) := rfl

/-! ## Statements -/

/-- A line that begins with a bare character is an assignment. -/
theorem readStatement?_cons {first : Char} (later : List Char) (bare : isBareChar first = true) :
    readStatement? (first :: later) =
      (readAssignment? (readValue? maxDepth) (first :: later)).map fun r =>
        (some (.assign r.1.1 r.1.2.1 r.1.2.2), r.2) := by
  have bracket := ne_of_isBareChar bare (by decide : isBareChar '[' = false)
  have hash := ne_of_isBareChar bare (by decide : isBareChar '#' = false)
  have feed := ne_of_isBareChar bare (by decide : isBareChar '\n' = false)
  have carriage := ne_of_isBareChar bare (by decide : isBareChar '\r' = false)
  unfold readStatement?
  split
  · simp_all
  · simp_all
  · split <;> simp_all

theorem readStatement?_assign {v : Toml} (bare : IsBare name)
    (visible : skipSpaces (value ++ '\n' :: rest) = value ++ '\n' :: rest)
    (read : readValue? maxDepth (value ++ '\n' :: rest) = some (v, '\n' :: rest)) :
    readStatement? (name ++ ' ' :: '=' :: ' ' :: (value ++ '\n' :: rest)) =
      some (some (.assign [] (String.ofList name) v), '\n' :: rest) := by
  have key : readKey? maxDepth (name ++ ' ' :: '=' :: ' ' :: (value ++ '\n' :: rest)) =
      some (([], String.ofList name), '=' :: ' ' :: (value ++ '\n' :: rest)) :=
    readKey?_name bare (by decide) rfl (by decide)
  have gap : skipSpaces (' ' :: (value ++ '\n' :: rest)) = value ++ '\n' :: rest := visible
  have assignment : readAssignment? (readValue? maxDepth)
      (name ++ ' ' :: '=' :: ' ' :: (value ++ '\n' :: rest)) =
        some (([], String.ofList name, v), '\n' :: rest) := by
    rw [readAssignment?, key]
    simp only [Option.bind_eq_bind, Option.bind_some, gap, read, Option.pure_def]
  obtain ⟨first, later, rfl, isBare⟩ := bare.exists_eq_cons
  rw [List.cons_append] at assignment ⊢
  rw [readStatement?_cons _ isBare, assignment]
  rfl

theorem readStatement?_openItem (rest : List Char) (bare : IsBare name) :
    readStatement? ('[' :: '[' :: (name ++ ']' :: ']' :: '\n' :: rest)) =
      some (some (.openItem [] (String.ofList name)), '\n' :: rest) := by
  rw [readStatement?, readHeader?, readKey?_bracketed _ bare]
  rfl

theorem readStatement?_openTable (rest : List Char) (bare : IsBare name) :
    readStatement? ('[' :: (name ++ ']' :: '\n' :: rest)) =
      some (some (.openTable [] (String.ofList name)), '\n' :: rest) := by
  have key := readKey?_bracketed ('\n' :: rest) bare
  obtain ⟨first, later, rfl, isBare⟩ := bare.exists_eq_cons
  have single := ne_of_isBareChar isBare (by decide : isBareChar '[' = false)
  rw [readStatement?, readHeader?, key]
  · rfl
  · exact fun _ same => single (List.cons.inj same).1

/-! ## Documents -/

/-- The text is read as these statements, with fuel for each of its characters. -/
def Reads (cs : List Char) (statements : List Statement) : Prop :=
  ∀ fuel, cs.length < fuel → readStatements? fuel cs = some statements

theorem Reads.nil : Reads [] [] := by
  intro fuel enough
  obtain ⟨fuel, rfl⟩ := Nat.exists_eq_succ_of_ne_zero (Nat.ne_of_gt enough)
  rfl

/-- A line adds its statement, if it has one. -/
theorem Reads.line {statement : Option Statement} (later : Reads rest statements)
    (line : List Char) (visible : skipSpaces (line ++ '\n' :: rest) = line ++ '\n' :: rest)
    (read : readStatement? (line ++ '\n' :: rest) = some (statement, '\n' :: rest)) :
    Reads (line ++ '\n' :: rest) (statement.toList ++ statements) := by
  intro fuel enough
  obtain ⟨fuel, rfl⟩ := Nat.exists_eq_succ_of_ne_zero (Nat.ne_of_gt (Nat.zero_lt_of_lt enough))
  have shorter : rest.length < fuel := by
    simp only [List.length_append, List.length_cons] at enough
    omega
  have ended : endLine? ('\n' :: rest) = some rest := rfl
  have not_done : line ++ '\n' :: rest ≠ [] := by simp
  rw [readStatements?, visible]
  split
  next done => exact absurd done not_done
  next =>
    simp only [read, Option.bind_eq_bind, Option.bind_some, ended, later fuel shorter,
      Option.pure_def]

theorem Reads.blank (later : Reads rest statements) : Reads ('\n' :: rest) statements :=
  later.line [] (rfl : skipSpaces ('\n' :: rest) = _) (rfl : _ = some (none, '\n' :: rest))

/-! ## Written lines -/

section Written

variable {title text : String} {v : Toml}

theorem Reads.assign (later : Reads rest statements) (bare : IsBare title.toList)
    (visible : skipSpaces (text.toList ++ '\n' :: rest) = text.toList ++ '\n' :: rest)
    (read : readValue? maxDepth (text.toList ++ '\n' :: rest) = some (v, '\n' :: rest)) :
    Reads ((assignment title text).toList ++ rest) (.assign [] title v :: statements) := by
  have written : (assignment title text).toList ++ rest =
      (title.toList ++ ' ' :: '=' :: ' ' :: text.toList) ++ '\n' :: rest := by
    simp [Toml.assignment]
  have statement := readStatement?_assign bare visible read
  rw [String.ofList_toList] at statement
  obtain ⟨first, more, starts, isBare⟩ := bare.exists_eq_cons
  have line : skipSpaces ((title.toList ++ ' ' :: '=' :: ' ' :: text.toList) ++ '\n' :: rest) =
      (title.toList ++ ' ' :: '=' :: ' ' :: text.toList) ++ '\n' :: rest := by
    rw [starts]
    exact skipSpaces_of_isBareChar _ isBare
  rw [written]
  exact later.line _ line (by simpa using statement)

theorem Reads.textLine (later : Reads rest statements) (title : String)
    (bare : IsBare title.toList) (s : String) :
    Reads ((textLine title s).toList ++ rest) (.assign [] title (.text s) :: statements) := by
  refine later.assign bare ?_ (readValue?_write maxDepth s rest)
  obtain ⟨body, starts⟩ := exists_eq_cons_of_readQuoted? (readQuoted?_write s rest)
  rcases starts with starts | starts <;> rw [starts] <;> rfl

theorem Reads.flagLine (later : Reads rest statements) (title : String)
    (bare : IsBare title.toList) (b : Bool) :
    Reads ((flagLine title b).toList ++ rest) (.assign [] title (.flag b) :: statements) :=
  later.assign bare (by cases b <;> rfl) (readValue?_flag maxDepth b rest)

theorem Reads.noItems (later : Reads rest statements) (bare : IsBare title.toList) :
    Reads ((Toml.assignment title "[]").toList ++ rest)
      (.assign [] title (.array false []) :: statements) :=
  later.assign bare rfl (readValue?_empty rest)

/-- A header is a line behind a blank one. -/
theorem Reads.header {statement : Statement} (later : Reads rest statements) (line : List Char)
    (written : text.toList = '\n' :: (line ++ ['\n']))
    (visible : skipSpaces (line ++ '\n' :: rest) = line ++ '\n' :: rest)
    (read : readStatement? (line ++ '\n' :: rest) = some (some statement, '\n' :: rest)) :
    Reads (text.toList ++ rest) (statement :: statements) := by
  have lines : text.toList ++ rest = '\n' :: (line ++ '\n' :: rest) := by simp [written]
  rw [lines]
  exact (later.line line visible read).blank

theorem Reads.openItem (later : Reads rest statements) (bare : IsBare title.toList) :
    Reads (("\n[[" ++ title ++ "]]\n").toList ++ rest) (.openItem [] title :: statements) :=
  later.header ('[' :: '[' :: (title.toList ++ [']', ']'])) (by simp) rfl
    (by simpa using readStatement?_openItem rest bare)

theorem Reads.openTable (later : Reads rest statements) (bare : IsBare title.toList) :
    Reads (("\n[" ++ title ++ "]\n").toList ++ rest) (.openTable [] title :: statements) :=
  later.header ('[' :: (title.toList ++ [']'])) (by simp) rfl
    (by simpa using readStatement?_openTable rest bare)

end Written

end Suffrage.Toml
