/-
# Suffrage.Proofs.RoundTrip -- a genesis configuration survives its document

`Genesis.toToml` writes a configuration and `Genesis.ofToml?` reads one.  What is written reads back
as the same configuration: the same founders in the same order, each with the same nickname or with
none, the same numbers with the same places, the same switches (`genesis_round_trip`).  Only a zero
that had a minus sign comes back without it (`Genesis.canonical`).

On its way a document is first a list of statements (`Genesis.statements`) and then a table
(`Genesis.table`).  Each of the three steps has its section: the lines are read as the statements,
the statements build the table, and the table shows the configuration.  The second step rests on one
fact about assignments, wherever they go (`buildFrom_assigns`): at the top, in the last of an array
of tables, or in a table with a header of its own.
-/
import Suffrage.Proofs.Canonical
import Suffrage.Proofs.Decimal
import Suffrage.Proofs.Lines
import Suffrage.Proofs.Rendering

namespace Suffrage

set_option autoImplicit false

open Toml

/-! ## What stands in the document -/

def Founder.tableMembers (f : Founder) : Members :=
  ("address", .text f.address) ::
    (f.nickname.map fun nickname => ("nickname", .text nickname)).toList

def Founder.table (f : Founder) : Toml := .table .header f.tableMembers

def Rules.tableMembers (r : Rules) : Members :=
  [("quorum", .text r.quorum.render),
    ("threshold", .text r.threshold.render),
    ("veto_threshold", .text r.vetoThreshold.render),
    ("burn_vote_quorum", .flag r.burnOnQuorum),
    ("burn_vote_veto", .flag r.burnOnVeto)]

def Rules.table (r : Rules) : Toml := .table .header r.tableMembers

/-- The entry that stands for a list of founders without any. -/
def noFounderMembers (name : String) (founders : List Founder) : Members :=
  if founders.isEmpty then [(name, .array false [])] else []

/-- The members after those before, with an array of these tables if there are any. -/
def withTables (before : Members) (name : String) : List Toml → Members
  | [] => before
  | tables => before ++ [(name, .array true tables)]

/-- What stands before the first header. -/
def Genesis.head (g : Genesis) : Members :=
  ("total_voting_weight", .text g.weight.render) ::
    (noFounderMembers "guardians" g.guardians ++ noFounderMembers "members" g.members)

/-- What stands before the rules. -/
def Genesis.beforeRules (g : Genesis) : Members :=
  withTables (withTables g.head "guardians" (g.guardians.map Founder.table)) "members"
    (g.members.map Founder.table)

def Genesis.tableMembers (g : Genesis) : Members := g.beforeRules ++ [("tally", g.rules.table)]

def Genesis.table (g : Genesis) : Toml := .table .header g.tableMembers

/-! ## Lines to statements -/

/-- An assignment for each member. -/
def assigns (members : Members) : List Statement := members.map fun m => .assign [] m.1 m.2

theorem assigns_append (members others : Members) :
    assigns (members ++ others) = assigns members ++ assigns others := List.map_append

def Founder.statements (name : String) (f : Founder) : List Statement :=
  .openItem [] name :: assigns f.tableMembers

def Rules.statements (r : Rules) : List Statement := .openTable [] "tally" :: assigns r.tableMembers

def Genesis.statements (g : Genesis) : List Statement :=
  assigns g.head ++ g.guardians.flatMap (Founder.statements "guardians") ++
    g.members.flatMap (Founder.statements "members") ++ g.rules.statements

section Lines

variable {rest : List Char} {statements : List Statement} {name : String}

theorem reads_founder (later : Reads rest statements) (bare : IsBare name.toList) (f : Founder) :
    Reads ((f.toToml name).toList ++ rest) (f.statements name ++ statements) := by
  obtain ⟨address, nickname⟩ := f
  cases nickname with
  | none =>
      have item := (later.textLine "address" (by decide) address).openItem bare
      simpa [Founder.toToml, Founder.statements, Founder.tableMembers, assigns] using item
  | some nickname =>
      have named := later.textLine "nickname" (by decide) nickname
      have item := (named.textLine "address" (by decide) address).openItem bare
      simpa [Founder.toToml, Founder.statements, Founder.tableMembers, assigns] using item

theorem reads_founders (later : Reads rest statements) (bare : IsBare name.toList)
    (founders : List Founder) :
    Reads ((String.join (founders.map (Founder.toToml name))).toList ++ rest)
      (founders.flatMap (Founder.statements name) ++ statements) := by
  induction founders with
  | nil => simpa using later
  | cons f others ih => simpa using reads_founder ih bare f

theorem reads_noFounders (later : Reads rest statements) (bare : IsBare name.toList)
    (founders : List Founder) :
    Reads ((noFounders name founders).toList ++ rest)
      (assigns (noFounderMembers name founders) ++ statements) := by
  unfold noFounders noFounderMembers
  split
  · exact later.noItems bare
  · exact later

theorem reads_rules (r : Rules) : Reads r.toToml.toList r.statements := by
  -- From the last line to the header.
  have onVeto := Reads.nil.flagLine "burn_vote_veto" (by decide) r.burnOnVeto
  have onQuorum := onVeto.flagLine "burn_vote_quorum" (by decide) r.burnOnQuorum
  have veto := onQuorum.textLine "veto_threshold" (by decide) r.vetoThreshold.render
  have threshold := veto.textLine "threshold" (by decide) r.threshold.render
  have quorum := threshold.textLine "quorum" (by decide) r.quorum.render
  have tally := quorum.openTable (by decide : IsBare "tally".toList)
  simpa [Rules.toToml, Rules.statements, Rules.tableMembers, assigns, decimalLine] using tally

theorem reads_genesis (g : Genesis) : Reads g.toToml.toList g.statements := by
  have guardiansBare : IsBare "guardians".toList := by decide
  have membersBare : IsBare "members".toList := by decide
  have members := reads_founders (reads_rules g.rules) membersBare g.members
  have guardians := reads_founders members guardiansBare g.guardians
  have noMembers := reads_noFounders guardians membersBare g.members
  have noGuardians := reads_noFounders noMembers guardiansBare g.guardians
  have weight := noGuardians.textLine "total_voting_weight" (by decide) g.weight.render
  have head : assigns g.head = .assign [] "total_voting_weight" (.text g.weight.render) ::
      (assigns (noFounderMembers "guardians" g.guardians) ++
        assigns (noFounderMembers "members" g.members)) :=
    congrArg _ (assigns_append _ _)
  simpa [Genesis.toToml, Genesis.statements, decimalLine, head] using weight

end Lines

/-! ## Statements to a table -/

section Tables

variable {before inner : Members} {name : String} {tables : List Toml} {v w : Toml}

theorem lookup_last (new : before.lookup name = none) :
    (before ++ [(name, v)]).lookup name = some v := by
  simp [List.lookup_append, new]

theorem replace_last (new : before.lookup name = none) :
    replace name w (before ++ [(name, v)]) = before ++ [(name, w)] := by
  have others : ∀ member ∈ before, member.1 ≠ name := fun member inside same => by
    simpa [same] using List.lookup_eq_none_iff.1 new member inside
  have kept : replace name w before = before :=
    (List.map_congr_left fun member inside => if_neg (others member inside)).trans
      (List.map_id' before)
  rw [replace, List.map_append, ← replace, kept]
  simp

/-! ### Assignments -/

/-- Assignments of new names append their members, where `place` puts the table opened last. -/
theorem buildFrom_assigns {current : List String} {place : Members → Members}
    (under : ∀ change inner, underHeader change current (place inner) = (change inner).map place)
    (members inner : Members) (distinct : ((inner ++ members).map Prod.fst).Nodup)
    (rest : List Statement) :
    buildFrom current (place inner) (assigns members ++ rest) =
      buildFrom current (place (inner ++ members)) rest := by
  induction members generalizing inner with
  | nil => simp [assigns]
  | cons member members ih =>
      -- The names so far do not come again, so the next one is unset.
      have unset : inner.lookup member.1 = none := by
        rw [List.lookup_eq_none_iff]
        intro other inside
        simp only [List.map_append, List.map_cons, List.nodup_append] at distinct
        exact bne_iff_ne.2 (distinct.2.2 _ (List.mem_map_of_mem inside) _ List.mem_cons_self).symm
      have assigned : assign member.1 member.2 true [] inner = some (inner ++ [member]) := by
        simp [assign, unset]
      rw [assigns, List.map_cons, List.cons_append, buildFrom, under, assigned, Option.map_some,
        Option.bind_some, ← assigns, ih _ (by simpa using distinct), List.append_assoc,
        List.singleton_append]

theorem underHeader_table (new : before.lookup name = none) (change : Members → Option Members)
    (inner : Members) :
    underHeader change [name] (before ++ [(name, .table .header inner)]) =
      (change inner).map fun inner => before ++ [(name, .table .header inner)] := by
  simp [underHeader, lookup_last new, replace_last new]

theorem underHeader_tables (new : before.lookup name = none) (tables : List Toml)
    (change : Members → Option Members) (inner : Members) :
    underHeader change [name] (before ++ [(name, .array true (tables ++ [.table .header inner]))]) =
      (change inner).map fun inner =>
        before ++ [(name, .array true (tables ++ [.table .header inner]))] := by
  simp [underHeader, lookup_last new, replace_last new]

/-! ### Founders -/

theorem withTables_append (before : Members) (name : String) (tables : List Toml) (last : Toml) :
    withTables before name (tables ++ [last]) =
      before ++ [(name, .array true (tables ++ [last]))] := by
  cases tables <;> rfl

theorem openItem_withTables (new : before.lookup name = none) :
    openItem name (withTables before name tables) =
      some (withTables before name (tables ++ [.table .header []])) := by
  cases tables with
  | nil => simp [withTables, openItem, new]
  | cons first others => simp [withTables, openItem, lookup_last new, replace_last new]

theorem Founder.nodup_tableMembers (f : Founder) : (f.tableMembers.map Prod.fst).Nodup := by
  obtain ⟨address, nickname⟩ := f
  cases nickname <;> simp [tableMembers]

/-- The statements of a founder append one table. -/
theorem buildFrom_founder (current : List String) (new : before.lookup name = none) (f : Founder)
    (rest : List Statement) :
    buildFrom current (withTables before name tables) (f.statements name ++ rest) =
      buildFrom [name] (withTables before name (tables ++ [f.table])) rest := by
  rw [Founder.statements, List.cons_append, buildFrom, underHeader, openItem_withTables new]
  simp only [Option.bind_some, List.nil_append, withTables_append]
  exact buildFrom_assigns (underHeader_tables new tables) f.tableMembers []
    f.nodup_tableMembers rest

theorem buildFrom_founders (current : List String) (tables : List Toml) (founders : List Founder)
    (new : founders ≠ [] → before.lookup name = none) (rest : List Statement) :
    ∃ reached, buildFrom current (withTables before name tables)
        (founders.flatMap (Founder.statements name) ++ rest) =
      buildFrom reached (withTables before name (tables ++ founders.map Founder.table)) rest := by
  induction founders generalizing current tables with
  | nil => exact ⟨current, by simp⟩
  | cons f others ih =>
      have fresh := new (List.cons_ne_nil f others)
      obtain ⟨reached, built⟩ := ih [name] (tables ++ [f.table]) fun _ => fresh
      refine ⟨reached, ?_⟩
      rw [List.flatMap_cons, List.append_assoc, buildFrom_founder current fresh, built]
      simp

/-! ### The rules -/

theorem buildFrom_rules (current : List String) (new : before.lookup "tally" = none) (r : Rules) :
    buildFrom current before r.statements = some (before ++ [("tally", r.table)]) := by
  have distinct : (r.tableMembers.map Prod.fst).Nodup := by simp [Rules.tableMembers]
  rw [Rules.statements, buildFrom, underHeader, openTable, new]
  simp only [Option.bind_some, List.nil_append]
  rw [← List.append_nil (assigns r.tableMembers)]
  exact buildFrom_assigns (underHeader_table new) r.tableMembers [] distinct []

/-! ### The whole document -/

variable {other : String}

theorem lookup_withTables (apart : other ≠ name) :
    (withTables before name tables).lookup other = before.lookup other := by
  cases tables with
  | nil => rfl
  | cons first later =>
      simp [withTables, List.lookup_append, List.lookup_cons, beq_false_of_ne apart]

theorem lookup_noFounderMembers (apart : other ≠ name) (founders : List Founder) :
    (noFounderMembers name founders).lookup other = none := by
  cases founders <;> simp [noFounderMembers, List.lookup_cons, beq_false_of_ne apart]

/-- Without an entry for no founders there are founders. -/
theorem lookup_noFounderMembers_self {founders : List Founder} (some_left : founders ≠ []) :
    (noFounderMembers name founders).lookup name = none := by
  cases founders with
  | nil => exact absurd rfl some_left
  | cons f others => rfl

namespace Genesis

variable (g : Genesis)

theorem nodup_head : (g.head.map Prod.fst).Nodup := by
  unfold head noFounderMembers
  cases g.guardians.isEmpty <;> cases g.members.isEmpty <;> simp

theorem lookup_head (apart : name ≠ "total_voting_weight") :
    g.head.lookup name = ((noFounderMembers "guardians" g.guardians).lookup name).or
      ((noFounderMembers "members" g.members).lookup name) := by
  simp [head, List.lookup_cons, List.lookup_append, beq_false_of_ne apart]

theorem lookup_head_guardians :
    g.head.lookup "guardians" = (noFounderMembers "guardians" g.guardians).lookup "guardians" := by
  rw [g.lookup_head (by decide), lookup_noFounderMembers (by decide : "guardians" ≠ "members"),
    Option.or_none]

theorem lookup_head_members :
    (withTables g.head "guardians" (g.guardians.map Founder.table)).lookup "members" =
      (noFounderMembers "members" g.members).lookup "members" := by
  rw [lookup_withTables (by decide), g.lookup_head (by decide),
    lookup_noFounderMembers (by decide : "members" ≠ "guardians"), Option.none_or]

theorem lookup_beforeRules : g.beforeRules.lookup "tally" = none := by
  rw [beforeRules, lookup_withTables (by decide), lookup_withTables (by decide),
    g.lookup_head (by decide), lookup_noFounderMembers (by decide),
    lookup_noFounderMembers (by decide)]
  rfl

end Genesis

theorem buildFrom_genesis (g : Genesis) :
    buildFrom [] [] g.statements = some g.tableMembers := by
  have top (change : Members → Option Members) (inner : Members) :
      underHeader change [] inner = (change inner).map id := by simp [underHeader]
  have head (rest : List Statement) :
      buildFrom [] [] (assigns g.head ++ rest) = buildFrom [] g.head rest :=
    buildFrom_assigns top g.head [] g.nodup_head rest
  obtain ⟨reached, guardians⟩ := buildFrom_founders [] [] g.guardians
    (fun some_left => g.lookup_head_guardians.trans (lookup_noFounderMembers_self some_left))
    (g.members.flatMap (Founder.statements "members") ++ g.rules.statements)
  obtain ⟨reached', members⟩ := buildFrom_founders reached [] g.members
    (fun some_left => g.lookup_head_members.trans (lookup_noFounderMembers_self some_left))
    g.rules.statements
  rw [Genesis.statements, List.append_assoc, List.append_assoc, head]
  calc buildFrom [] g.head _
      = buildFrom reached (withTables g.head "guardians" (g.guardians.map Founder.table)) _ :=
        guardians
    _ = buildFrom reached' g.beforeRules g.rules.statements := members
    _ = some g.tableMembers := buildFrom_rules reached' g.lookup_beforeRules g.rules

end Tables

/-! ## The table to a configuration -/

section Decoding

theorem founder?_table (f : Founder) : Dialect.toml.founder? f.table = some f := by
  obtain ⟨address, nickname⟩ := f
  cases nickname <;> rfl

theorem list?_tables (byHeaders : Bool) (founders : List Founder) :
    Dialect.toml.list? Dialect.toml.founder? (.array byHeaders (founders.map Founder.table)) =
      some founders := by
  change (founders.map Founder.table).mapM Dialect.toml.founder? = some founders
  induction founders with
  | nil => rfl
  | cons f others ih => simp [founder?_table, ih]

theorem decimal?_text (d : Decimal) : Dialect.toml.decimal? (.text d.render) = some d.canonical :=
  d.read?_render

theorem rules?_table (r : Rules) : Dialect.toml.rules? r.table = some r.canonical := by
  have shown : Dialect.toml.record? Dialect.rulesMembers r.table =
      some fun name => r.tableMembers.lookup name := rfl
  have quorum : r.tableMembers.lookup "quorum" = some (.text r.quorum.render) := rfl
  have threshold : r.tableMembers.lookup "threshold" = some (.text r.threshold.render) := rfl
  have veto : r.tableMembers.lookup "veto_threshold" = some (.text r.vetoThreshold.render) := rfl
  have onQuorum : r.tableMembers.lookup "burn_vote_quorum" = some (.flag r.burnOnQuorum) := rfl
  have onVeto : r.tableMembers.lookup "burn_vote_veto" = some (.flag r.burnOnVeto) := rfl
  rw [Dialect.rules?, shown]
  simp only [Option.bind_eq_bind, Option.bind_some, quorum, threshold, veto, onQuorum, onVeto,
    Dialect.orElse, decimal?_text]
  rfl

/-- Founders stand in the document as an array, one made by headers if it is not empty. -/
theorem lookup_founders {before : Members} {name : String} (founders : List Founder)
    (head : before.lookup name = (noFounderMembers name founders).lookup name) :
    (withTables before name (founders.map Founder.table)).lookup name =
      some (.array (!founders.isEmpty) (founders.map Founder.table)) := by
  cases founders with
  | nil => simp [withTables, head, noFounderMembers]
  | cons f others => exact lookup_last head

theorem lookup_tableMembers (g : Genesis) :
    g.tableMembers.lookup "total_voting_weight" = some (.text g.weight.render) ∧
    g.tableMembers.lookup "guardians" =
      some (.array (!g.guardians.isEmpty) (g.guardians.map Founder.table)) ∧
    g.tableMembers.lookup "members" =
      some (.array (!g.members.isEmpty) (g.members.map Founder.table)) ∧
    g.tableMembers.lookup "tally" = some g.rules.table := by
  refine ⟨?weight, ?guardians, ?members, lookup_last g.lookup_beforeRules⟩
  case weight =>
    rw [Genesis.tableMembers, Genesis.beforeRules, List.lookup_append,
      lookup_withTables (by decide), lookup_withTables (by decide)]
    rfl
  case guardians =>
    rw [Genesis.tableMembers, Genesis.beforeRules, List.lookup_append,
      lookup_withTables (by decide), lookup_founders g.guardians g.lookup_head_guardians]
    rfl
  case members =>
    rw [Genesis.tableMembers, Genesis.beforeRules, List.lookup_append,
      lookup_founders g.members g.lookup_head_members]
    rfl

theorem genesis?_table (g : Genesis) : Dialect.toml.genesis? g.table = some g.canonical := by
  obtain ⟨weight, guardians, members, tally⟩ := lookup_tableMembers g
  have shown : Dialect.toml.record? Dialect.genesisMembers g.table =
      some fun name => g.tableMembers.lookup name := rfl
  rw [Dialect.genesis?, shown]
  simp only [Option.bind_eq_bind, Option.bind_some, weight, guardians, members, tally,
    Dialect.orElse, decimal?_text, list?_tables, rules?_table]
  rfl

end Decoding

/-! ## The whole way -/

/-- No document begins with a byte order mark: it begins with the name of the weight. -/
theorem dropMark_toToml (g : Genesis) : dropMark g.toToml.toList = g.toToml.toList := by
  obtain ⟨later, starts⟩ : ∃ later, g.toToml.toList = 't' :: later := by
    simp only [Genesis.toToml, decimalLine, textLine, assignment, String.toList_append,
      List.append_assoc]
    exact ⟨_, rfl⟩
  rw [starts]
  rfl

theorem parse?_toToml (g : Genesis) : parse? g.toToml = some g.table := by
  have read := reads_genesis g _ (Nat.lt_succ_self g.toToml.toList.length)
  rw [parse?, dropMark_toToml]
  simp only [read, Option.bind_some, build?, buildFrom_genesis]
  rfl

theorem ofToml?_toToml (g : Genesis) : Genesis.ofToml? g.toToml = some g.canonical := by
  rw [Genesis.ofToml?, parse?_toToml, Option.bind_some, genesis?_table]

/-- A configuration that is written to a document and read again is the same configuration.

* It compares equal.  All that a number may lose is the minus sign of a zero.
* The founders are the same texts in the same order, and one without a nickname still has none.
* Every number keeps its places. -/
theorem genesis_round_trip (g : Genesis) :
    ∃ r, Genesis.ofToml? g.toToml = some r ∧
      r.same g = true ∧
      r.guardians = g.guardians ∧ r.members = g.members ∧
      r.weight.scale = g.weight.scale ∧
      r.rules.quorum.scale = g.rules.quorum.scale ∧
      r.rules.threshold.scale = g.rules.threshold.scale ∧
      r.rules.vetoThreshold.scale = g.rules.vetoThreshold.scale :=
  ⟨g.canonical, ofToml?_toToml g, g.same_canonical, rfl, rfl, rfl, rfl, rfl, rfl⟩

end Suffrage
