/-
# Suffrage.Proofs.Exchange -- records come back from JSON

Each kind of record has a writer and a reader (`Suffrage.Json.Write`, `Suffrage.Json.Read`), and
`Json.RoundTrips` says what the two owe each other: what is written is read, and comes back in its
canonical form, which is the record itself unless it holds a zero with a minus sign; and no two
records are written alike.  The last does not follow from the first: the text of a zero shows the
sign that the reader drops.

A reader looks the members up by name, and finds what the writer put there; so each proof of
`ofJson?_toJson` first says which parts are read (`read`) and then reads them.
-/
import Suffrage.Json.Read
import Suffrage.Proofs.Canonical
import Suffrage.Proofs.Rendering

namespace Suffrage

set_option autoImplicit false

/-- What a writer and a reader of records owe each other. -/
structure Json.RoundTrips {α : Type} (write : α → Json) (read : Json → Option α)
    (canonical : α → α) (decimals : α → List Decimal) : Prop where
  /-- What is written reads back in its canonical form. -/
  back : ∀ a, read (write a) = some (canonical a)
  /-- In it every decimal has its digits and its places, and its sign unless it is zero. -/
  decimals_back : ∀ a, decimals (canonical a) = (decimals a).map Decimal.canonical
  /-- It is what was written, unless that holds a zero with a sign. -/
  unchanged_iff : ∀ a, canonical a = a ↔ ∀ d ∈ decimals a, ¬d.IsSignedZero
  /-- Nothing else is written like it. -/
  apart : Function.Injective write

/-- Where everything comes back as it was, nothing is written alike. -/
theorem Json.injective_of_back {α : Type} {write : α → Json} {read : Json → Option α}
    (back : ∀ a, read (write a) = some a) : Function.Injective write := by
  intro a b same
  rw [← Option.some_inj, ← back, ← back, same]

/-! ## Parts of records -/

@[simp] theorem Decimal.ofJson?_toJson (d : Decimal) : ofJson? d.toJson = some d.canonical :=
  d.read?_render

@[simp] theorem Decimal.toJson_inj {d e : Decimal} : d.toJson = e.toJson ↔ d = e :=
  ⟨fun same => render_inj (Json.text.inj same), congrArg toJson⟩

@[simp] theorem Address.ofJson?_toJson (a : Address) : ofJson? a.toJson = some a := rfl

@[simp] theorem Address.toJson_inj {a b : Address} : a.toJson = b.toJson ↔ a = b :=
  (Json.injective_of_back ofJson?_toJson).eq_iff

@[simp] theorem ProposalId.ofJson?_toJson (p : ProposalId) : ofJson? p.toJson = some p := by
  rw [ofJson?, toJson, Json.word?_word, Option.map_some]

@[simp] theorem ProposalId.toJson_inj {p q : ProposalId} : p.toJson = q.toJson ↔ p = q :=
  (Json.injective_of_back ofJson?_toJson).eq_iff

@[simp] theorem Standing.ofJson?_toJson (s : Standing) : ofJson? s.toJson = some s := s.ofTag?_tag

@[simp] theorem Standing.ofEventJson?_toJson (s : Standing) : ofEventJson? s.toJson = some s :=
  s.ofTag?_tag

@[simp] theorem Standing.toJson_inj {s t : Standing} : s.toJson = t.toJson ↔ s = t :=
  (Json.injective_of_back ofJson?_toJson).eq_iff

@[simp] theorem Choice.ofJson?_toJson (c : Choice) : ofJson? c.toJson = some c := c.ofTag?_tag

@[simp] theorem Choice.toJson_inj {c d : Choice} : c.toJson = d.toJson ↔ c = d :=
  (Json.injective_of_back ofJson?_toJson).eq_iff

/-! ### Lists -/

namespace Json

variable {α : Type} {write : α → Json} {read : Json → Option α}

theorem list?_array {after : α → α} (back : ∀ a, read (write a) = some (after a))
    (items : List α) : (array (items.map write)).list? read = some (items.map after) := by
  change (items.map write).mapM read = some (items.map after)
  induction items with
  | nil => rfl
  | cons a others ih => simp [back, ih]

theorem list?_array_self (back : ∀ a, read (write a) = some a) (items : List α) :
    (array (items.map write)).list? read = some items := by
  have kept : ∀ a, read (write a) = some (id a) := back
  rw [list?_array kept, List.map_id]

theorem array_inj (apart : ∀ a b, write a = write b ↔ a = b) {items others : List α} :
    array (items.map write) = array (others.map write) ↔ items = others := by
  rw [array.injEq, List.map_inj_right fun a b => (apart a b).1]

end Json

@[simp] theorem list?_addressesToJson (addresses : List Address) :
    (addressesToJson addresses).list? Address.ofJson? = some addresses :=
  Json.list?_array_self Address.ofJson?_toJson addresses

@[simp] theorem addressesToJson_inj {addresses others : List Address} :
    addressesToJson addresses = addressesToJson others ↔ addresses = others :=
  Json.array_inj fun _ _ => Address.toJson_inj

namespace Json

@[simp] theorem list?_texts (items : List String) : (texts items).list? text? = some items := by
  have back (s : String) : text? (text s) = some s := rfl
  exact list?_array_self back items

@[simp] theorem texts_inj {items others : List String} :
    texts items = texts others ↔ items = others :=
  array_inj fun _ _ => by simp

end Json

/-! ## Ballots -/

theorem WeightedChoice.ofJson?_toJson (w : WeightedChoice) :
    ofJson? w.toJson = some w.canonical := by
  have read : ofJson? w.toJson = (do
      let choice ← Choice.ofJson? w.choice.toJson
      let weight ← Decimal.ofJson? w.weight.toJson
      return { choice, weight }) := rfl
  simp [read, canonical]

theorem WeightedChoice.toJson_inj {w v : WeightedChoice} : w.toJson = v.toJson ↔ w = v := by
  cases w
  cases v
  simp [toJson]

theorem Ballot.ofJson?_toJson (b : Ballot) : ofJson? b.toJson = some b.canonical := by
  -- Said of any values, lest the number of the proposal is computed.
  have read (proposal voter options : Json) :
      ofJson? (.object [("proposal_id", proposal), ("voter", voter), ("options", options)]) = (do
        let proposal ← ProposalId.ofJson? proposal
        let voter ← Address.ofJson? voter
        let options ← options.list? WeightedChoice.ofJson?
        return { proposal, voter, options }) := rfl
  rw [toJson, read, Json.list?_array WeightedChoice.ofJson?_toJson, canonical_eq]
  simp

theorem Ballot.toJson_inj {b c : Ballot} : b.toJson = c.toJson ↔ b = c := by
  cases b
  cases c
  simp [toJson, ← Json.array_inj fun _ _ => WeightedChoice.toJson_inj]

/-! ## Members and settings -/

theorem Member.ofJson?_toJson (m : Member) : ofJson? m.toJson = some m := by
  have read : ofJson? m.toJson = (do
      let standing ← Standing.ofJson? m.standing.toJson
      return { m with standing }) := rfl
  simp [read]

theorem Settings.ofJson?_toJson (s : Settings) : ofJson? s.toJson = some s.canonical := by
  have read : ofJson? s.toJson = (do
      let guardians ← (addressesToJson s.guardians).list? Address.ofJson?
      let weight ← Decimal.ofJson? s.weight.toJson
      return { guardians, weight }) := rfl
  simp [read, canonical]

theorem Settings.toJson_inj {s t : Settings} : s.toJson = t.toJson ↔ s = t := by
  cases s
  cases t
  simp [toJson]

/-! ## Rules and the genesis configuration -/

theorem Rules.ofJson?_toJson (r : Rules) : ofJson? r.toJson = some r.canonical := by
  have read : ofJson? r.toJson = (do
      let quorum ← Decimal.ofJson? r.quorum.toJson
      let threshold ← Decimal.ofJson? r.threshold.toJson
      let vetoThreshold ← Decimal.ofJson? r.vetoThreshold.toJson
      return { r with quorum, threshold, vetoThreshold }) := rfl
  simp [read, canonical]

theorem Rules.toJson_inj {r s : Rules} : r.toJson = s.toJson ↔ r = s := by
  cases r
  cases s
  simp [toJson]

/-- A founder without a nickname is written without the member, and so reads as one without. -/
theorem Founder.ofJson?_toJson (f : Founder) : ofJson? f.toJson = some f := by
  obtain ⟨address, nickname⟩ := f
  cases nickname <;> rfl

theorem Founder.toJson_inj {f g : Founder} : f.toJson = g.toJson ↔ f = g :=
  (Json.injective_of_back ofJson?_toJson).eq_iff

theorem Genesis.ofJson?_toJson (g : Genesis) : ofJson? g.toJson = some g.canonical := by
  have read : ofJson? g.toJson = (do
      let weight ← Decimal.ofJson? g.weight.toJson
      let guardians ← (Json.array (g.guardians.map Founder.toJson)).list? Founder.ofJson?
      let members ← (Json.array (g.members.map Founder.toJson)).list? Founder.ofJson?
      let rules ← Rules.ofJson? g.rules.toJson
      return { weight, guardians, members, rules }) := rfl
  simp [read, canonical, Rules.ofJson?_toJson, Json.list?_array_self Founder.ofJson?_toJson]

theorem Genesis.toJson_inj {g h : Genesis} : g.toJson = h.toJson ↔ g = h := by
  cases g
  cases h
  simp [toJson, Rules.toJson_inj, ← Json.array_inj fun _ _ => Founder.toJson_inj]

/-! ## Motions -/

theorem Motion.ofJson?_toJson (m : Motion) : ofJson? m.toJson = some m.canonical := by
  obtain ⟨title, description, creator, demand⟩ := m
  cases demand with
  | addGuardians addresses =>
      have read : ofJson? (toJson ⟨title, description, creator, .addGuardians addresses⟩) = (do
          let demand ← ((Json.texts addresses).list? Json.text?).map .addGuardians
          return { title, description, creator, demand }) := rfl
      simp [read, canonical, Demand.canonical]
  | removeGuardians addresses =>
      have read : ofJson? (toJson ⟨title, description, creator, .removeGuardians addresses⟩) = (do
          let demand ← ((Json.texts addresses).list? Json.text?).map .removeGuardians
          return { title, description, creator, demand }) := rfl
      simp [read, canonical, Demand.canonical]
  | setWeight weight =>
      have read : ofJson? (toJson ⟨title, description, creator, .setWeight weight⟩) = (do
          let demand ← (Decimal.ofJson? weight.toJson).map .setWeight
          return { title, description, creator, demand }) := rfl
      simp [read, canonical, Demand.canonical]

/-- The name of the demand tells the kinds apart, and the members the rest. -/
theorem Motion.toJson_inj {m n : Motion} : m.toJson = n.toJson ↔ m = n := by
  obtain ⟨_, _, _, demand⟩ := m
  obtain ⟨_, _, _, demand'⟩ := n
  cases demand <;> cases demand' <;> simp [toJson, Demand.tag, Demand.toMember]

/-! ## Events -/

theorem Event.ofJson?_toJson (e : Event) : ofJson? e.toJson = some e.canonical := by
  cases e with
  | memberEnrolled member => rfl
  | standingChanged member previous current operator =>
      have read : ofJson? (standingChanged member previous current operator).toJson = (do
          let previous ← Standing.ofEventJson? previous.toJson
          let current ← Standing.ofEventJson? current.toJson
          return standingChanged member previous current operator) := rfl
      simp [read, canonical]
  | memberApproved member approver => rfl
  | guardiansAdded guardians =>
      have read : ofJson? (guardiansAdded guardians).toJson = (do
          let guardians ← (addressesToJson guardians).list? Address.ofJson?
          return guardiansAdded guardians) := rfl
      simp [read, canonical]
  | guardiansRemoved guardians =>
      have read : ofJson? (guardiansRemoved guardians).toJson = (do
          let guardians ← (addressesToJson guardians).list? Address.ofJson?
          return guardiansRemoved guardians) := rfl
      simp [read, canonical]
  | weightChanged previous new =>
      have read : ofJson? (weightChanged previous new).toJson = (do
          let previous ← Decimal.ofJson? previous.toJson
          let new ← Decimal.ofJson? new.toJson
          return weightChanged previous new) := rfl
      simp [read, canonical]

/-- The type tells the kinds apart, and the other members the rest. -/
theorem Event.toJson_inj {e f : Event} : e.toJson = f.toJson ↔ e = f := by
  cases e <;> cases f <;> simp [toJson, name, toMembers]

/-- An event has a type, which no demand is called. -/
theorem Event.toJson_ne_motion (e : Event) (m : Motion) : e.toJson ≠ m.toJson := by
  obtain ⟨_, _, _, demand⟩ := m
  cases demand <;> simp [toJson, Motion.toJson, Demand.tag]

/-! ## The whole exchange -/

theorem Rules.roundTrips :
    Json.RoundTrips Rules.toJson Rules.ofJson? Rules.canonical Rules.decimals where
  back := ofJson?_toJson
  decimals_back _ := rfl
  unchanged_iff _ := canonical_eq_self_iff
  apart _ _ := toJson_inj.1

theorem Genesis.roundTrips :
    Json.RoundTrips Genesis.toJson Genesis.ofJson? Genesis.canonical Genesis.decimals where
  back := ofJson?_toJson
  decimals_back _ := rfl
  unchanged_iff _ := canonical_eq_self_iff
  apart _ _ := toJson_inj.1

theorem Settings.roundTrips :
    Json.RoundTrips Settings.toJson Settings.ofJson? Settings.canonical Settings.decimals where
  back := ofJson?_toJson
  decimals_back _ := rfl
  unchanged_iff _ := canonical_eq_self_iff
  apart _ _ := toJson_inj.1

theorem Ballot.roundTrips :
    Json.RoundTrips Ballot.toJson Ballot.ofJson? Ballot.canonical Ballot.decimals where
  back := ofJson?_toJson
  decimals_back b := by simp [decimals, canonical]
  unchanged_iff _ := canonical_eq_self_iff
  apart _ _ := toJson_inj.1

theorem Motion.roundTrips :
    Json.RoundTrips Motion.toJson Motion.ofJson? Motion.canonical Motion.decimals where
  back := ofJson?_toJson
  decimals_back m := by
    obtain ⟨_, _, _, demand⟩ := m
    cases demand <;> rfl
  unchanged_iff _ := canonical_eq_self_iff
  apart _ _ := toJson_inj.1

theorem Event.roundTrips :
    Json.RoundTrips Event.toJson Event.ofJson? Event.canonical Event.decimals where
  back := ofJson?_toJson
  decimals_back e := by cases e <;> rfl
  unchanged_iff _ := canonical_eq_self_iff
  apart _ _ := toJson_inj.1

/-- A member record holds no decimals, so it always comes back as it was. -/
theorem Member.roundTrips :
    Json.RoundTrips Member.toJson Member.ofJson? id fun _ => [] where
  back := ofJson?_toJson
  decimals_back _ := rfl
  unchanged_iff _ := by simp
  apart := Json.injective_of_back ofJson?_toJson

/-- Records of every kind come back from JSON, and no two of a kind are written alike; nor is an
event written like a motion. -/
theorem json_round_trip :
    Json.RoundTrips Event.toJson Event.ofJson? Event.canonical Event.decimals ∧
    Json.RoundTrips Motion.toJson Motion.ofJson? Motion.canonical Motion.decimals ∧
    Json.RoundTrips Genesis.toJson Genesis.ofJson? Genesis.canonical Genesis.decimals ∧
    Json.RoundTrips Rules.toJson Rules.ofJson? Rules.canonical Rules.decimals ∧
    Json.RoundTrips Member.toJson Member.ofJson? id (fun _ => []) ∧
    Json.RoundTrips Settings.toJson Settings.ofJson? Settings.canonical Settings.decimals ∧
    Json.RoundTrips Ballot.toJson Ballot.ofJson? Ballot.canonical Ballot.decimals ∧
    ∀ (e : Event) (m : Motion), e.toJson ≠ m.toJson :=
  ⟨Event.roundTrips, Motion.roundTrips, Genesis.roundTrips, Rules.roundTrips, Member.roundTrips,
    Settings.roundTrips, Ballot.roundTrips, Event.toJson_ne_motion⟩

/-- A number too small for 28 places is read as a zero with its sign.  Rules with this quorum do
not come back: the sign is written, and then read away. -/
theorem signed_zero_comes_back_plain :
    let quorum : Decimal := ⟨true, 0, 28, by decide, by decide⟩
    let rules : Rules := { Rules.default with quorum }
    Decimal.ofJson? (.text "-0.4e-28") = some quorum ∧
      Rules.ofJson? rules.toJson =
        some { rules with quorum := ⟨false, 0, 28, by decide, by decide⟩ } ∧
      Rules.ofJson? rules.toJson ≠ some rules := by
  intro quorum rules
  have read : Decimal.ofJson? (.text "-0.4e-28") = some quorum := by decide
  have back : Rules.ofJson? rules.toJson = some rules.canonical := rules.ofJson?_toJson
  refine ⟨read, back, ?_⟩
  rw [back]
  decide

end Suffrage
