import RemoteConsole.Proofs.Match.Lookups

namespace RemoteConsole.Match

inductive Column where
  | name
  | team
  | kills
  | deaths
  | score
  | credits
  | ping
  | ip
  | hardwareId
  | account
  | adminLevel
  | isBot
  deriving DecidableEq

namespace Column

def title : Column → String
  | name => "Name"
  | team => "Team"
  | kills => "Kills"
  | deaths => "Deaths"
  | score => "Score"
  | credits => "Credits"
  | ping => "Ping"
  | ip => "IP"
  | hardwareId => "HWID"
  | account => "Steam"
  | adminLevel => "Admin"
  | isBot => "IsBot"

/-- Two players are alike in what the column is about. -/
def Agrees (p q : Player) : Column → Prop
  | name => q.name = p.name
  | team => q.team = p.team
  | kills => q.kills = p.kills
  | deaths => q.deaths = p.deaths
  | score => q.score = p.score
  | credits => q.credits = p.credits
  | ping => q.ping = p.ping
  | ip => q.ip = p.ip ∧ q.address = p.address
  | hardwareId => q.hardwareId = p.hardwareId
  | account => q.account = p.account
  | adminLevel => q.adminLevel = p.adminLevel
  | isBot => q.isBot = p.isBot

theorem Agrees.refl (p : Player) (c : Column) : c.Agrees p p := by
  cases c with
  | ip => exact ⟨rfl, rfl⟩
  | _ => rfl

theorem Agrees.trans {p q r : Player} {c : Column} (h : c.Agrees p q) (h' : c.Agrees q r) :
    c.Agrees p r := by
  cases c with
  | ip => exact ⟨h'.1.trans h.1, h'.2.trans h.2⟩
  | _ => exact Eq.trans h' h

end Column

def Player.untold (p : Player) : Player :=
  { p with
    name := "", team := .none, kills := 0, deaths := 0, score := 0, credits := 0, ping := 0
    ip := "", address := .unknown, hardwareId := "", account := 0, adminLevel := none
    isBot := false }

/-- What is written over a player is what the column is about, and nothing else. -/
structure Column.Tells (c : Column) (f : Player → String → Player) : Prop where
  untold : ∀ p v, (f p v).untold = p.untold
  others : ∀ p v other, other ≠ c → other.Agrees p (f p v)

namespace Table

/-- Only what the table has columns for has changed. -/
structure Overlays (t : Table) (p q : Player) : Prop where
  untold : q.untold = p.untold
  told : ∀ c : Column, t.column? c.title = none → c.Agrees p q

namespace Overlays

variable {t : Table} {p q r : Player}

theorem refl (t : Table) (p : Player) : t.Overlays p p :=
  ⟨rfl, fun c _ => .refl p c⟩

theorem trans (h : t.Overlays p q) (h' : t.Overlays q r) : t.Overlays p r where
  untold := h'.untold.trans h.untold
  told c hc := (h.told c hc).trans (h'.told c hc)

theorem cell (h : t.Overlays p q) (c : Column) {value : Option String}
    {f : Player → String → Player} (hvalue : t.column? c.title = none → value = none)
    (hf : c.Tells f) : t.Overlays p (Match.told value f q) := by
  refine h.trans ?_
  cases value with
  | none => exact refl t q
  | some v =>
      refine ⟨hf.untold q v, fun other hnone => hf.others q v other ?_⟩
      rintro rfl
      cases hvalue hnone

end Overlays

variable (t : Table)

theorem cell?_of_no_column {name : String} (h : t.column? name = none) (row : List String) :
    t.cell? row name = none := by
  rw [cell?, h]
  rfl

theorem overlays_updatePlayer (row : List String) (p : Player) :
    t.Overlays p (t.updatePlayer row p) := by
  have hcell {c : Column} (h : t.column? c.title = none) : t.cell? row c.title = none :=
    t.cell?_of_no_column h row
  have hfilled {c : Column} (h : t.column? c.title = none) :
      filled (t.cell? row c.title) = none := by
    rw [hcell h]
    rfl
  have hrank {c : Column} (h : t.column? c.title = none) :
      (filled (t.cell? row c.title)).filter (· != "None") = none := by
    rw [hfilled h]
    rfl
  refine Overlays.refl t p
    |>.cell .name hfilled ?_
    |>.cell .team hcell ?_
    |>.cell .kills hcell ?_
    |>.cell .deaths hcell ?_
    |>.cell .score hcell ?_
    |>.cell .credits hcell ?_
    |>.cell .ping hcell ?_
    |>.cell .ip hfilled ?_
    |>.cell .hardwareId hfilled ?_
    |>.cell .account hcell ?_
    |>.cell .adminLevel hrank ?_
    |>.cell .isBot hcell ?_
  all_goals
    constructor
    · intro p v
      simp only [Player.untold, Player.setIp]
    · intro p v other hother
      cases other <;> first | exact absurd rfl hother | exact rfl | exact ⟨rfl, rfl⟩

def HasIds : Prop :=
  (t.column? "ID").isSome ∨ (t.column? "PlayerID").isSome

theorem hasIds_iff : t.HasIds ↔ ¬ ((t.column? "ID").isNone && (t.column? "PlayerID").isNone) := by
  simp only [HasIds, Bool.and_eq_true, not_and_or, Option.isNone_iff_eq_none,
    Option.isSome_iff_ne_none, ne_eq]

/-- A player as rows tell of them, one after the other. -/
def toldBy (rows : List (List String)) (p : Player) : Player :=
  (rows.filter fun row => (t.playerId? row).map Prod.fst = some p.id).foldl
    (fun p row => t.updatePlayer row p) p

theorem toldBy_cons_of_ne {row : List String} {p : Player}
    (h : (t.playerId? row).map Prod.fst ≠ some p.id) (rows : List (List String)) :
    t.toldBy (row :: rows) p = t.toldBy rows p := by
  rw [toldBy, List.filter_cons_of_neg (by simpa using h), toldBy]

theorem toldBy_cons_of_eq {row : List String} {p : Player}
    (h : (t.playerId? row).map Prod.fst = some p.id) (rows : List (List String)) :
    t.toldBy (row :: rows) p = t.toldBy rows (t.updatePlayer row p) := by
  rw [toldBy, List.filter_cons_of_pos (by simpa using h), List.foldl_cons, toldBy,
    t.updatePlayer_id]

theorem overlays_toldBy (rows : List (List String)) (p : Player) :
    t.Overlays p (t.toldBy rows p) := by
  induction rows generalizing p with
  | nil => exact .refl t p
  | cons row rows ih =>
      by_cases hrow : (t.playerId? row).map Prod.fst = some p.id
      · rw [t.toldBy_cons_of_eq hrow]
        exact (t.overlays_updatePlayer row p).trans (ih _)
      · rw [t.toldBy_cons_of_ne hrow]
        exact ih p

end Table

theorem filter_append_singleton (known : List PlayerId) (id : PlayerId) (ids : List PlayerId) :
    ids.filter (· ∉ known ++ [id]) = (ids.filter (· ∉ known)).filter fun other => !other == id := by
  rw [List.filter_filter]
  congr 1
  funext other
  rw [Bool.eq_iff_iff]
  simp [and_comm]

theorem eraseDups_of_new {known : List PlayerId} {id : PlayerId} (h : id ∉ known)
    (ids : List PlayerId) :
    ((id :: ids).filter (· ∉ known)).eraseDups =
      id :: (ids.filter (· ∉ known ++ [id])).eraseDups := by
  rw [List.filter_cons_of_pos (by simpa using h), List.eraseDups_cons, filter_append_singleton]

namespace Model

variable (now : Instant) {m : Model} {t : Table} {id : PlayerId}

section Rows

variable {state : Model × List Event} {row : List String} {isBot : Bool}

theorem rosterRow_of_none (hrow : t.playerId? row = none) : rosterRow now t state row = state := by
  unfold rosterRow
  rw [hrow]

theorem rosterRow_of_known (hrow : t.playerId? row = some (id, isBot)) (h : id ∈ state.1.ids) :
    rosterRow now t state row = (state.1.edit id (t.updatePlayer row), state.2) := by
  rw [← isSome_player?] at h
  unfold rosterRow
  rw [hrow]
  exact if_pos h

theorem rosterRow_of_new (hrow : t.playerId? row = some (id, isBot)) (h : id ∉ state.1.ids) :
    ∃ p, p.id = id ∧
      rosterRow now t state row = (state.1.add p, state.2 ++ [.playerDiscovered p]) := by
  rw [← isSome_player?] at h
  unfold rosterRow
  rw [hrow]
  refine ⟨_, ?_, if_neg h⟩
  rw [t.updatePlayer_id]

theorem player?_rosterRows {p : Player} (hp : state.1.player? p.id = some p)
    (rows : List (List String)) :
    (rows.foldl (rosterRow now t) state).1.player? p.id = some (t.toldBy rows p) := by
  induction rows generalizing state p with
  | nil => exact hp
  | cons row rows ih =>
      rw [List.foldl_cons]
      by_cases hrow : (t.playerId? row).map Prod.fst = some p.id
      · obtain ⟨⟨id, isBot⟩, hcell, hid⟩ := Option.map_eq_some_iff.1 hrow
        have hid : id = p.id := hid
        subst id
        have hthere : p.id ∈ state.1.ids :=
          (isSome_player? _ _).1 (Option.isSome_iff_exists.2 ⟨p, hp⟩)
        have hsame := t.updatePlayer_id row p
        rw [rosterRow_of_known now hcell hthere, t.toldBy_cons_of_eq hrow, ← hsame]
        refine ih ?_
        rw [player?_edit_of_keeps _ (t.updatePlayer_id row), hsame, if_pos rfl, hp,
          Option.map_some]
      · rw [t.toldBy_cons_of_ne hrow]
        refine ih ?_
        rw [player?_rosterRow_of_ne now hrow, hp]

theorem others_rosterRow (row : List String) :
    ∃ players, (rosterRow now t state row).1 = { state.1 with players } := by
  unfold rosterRow
  dsimp only
  split
  · exact ⟨_, rfl⟩
  · split
    · exact ⟨_, rfl⟩
    · exact ⟨_, rfl⟩

theorem others_rosterRows (rows : List (List String)) :
    ∃ players, (rows.foldl (rosterRow now t) state).1 = { state.1 with players } := by
  induction rows generalizing state with
  | nil => exact ⟨_, rfl⟩
  | cons row rows ih =>
      obtain ⟨players, hrow⟩ : ∃ players, (rosterRow now t state row).1 =
          { state.1 with players } := others_rosterRow now row
      rw [List.foldl_cons]
      generalize rosterRow now t state row = read at hrow ⊢
      obtain ⟨all, hrows⟩ := @ih read
      exact ⟨all, by rw [hrows, hrow]⟩

/-- The rows bring the ids that nobody has, each where it comes first. -/
theorem brought_rosterRows (rows : List (List String)) :
    (rows.foldl (rosterRow now t) state).2.filterMap Event.brought? =
      state.2.filterMap Event.brought? ++
        ((rows.filterMap fun row => (t.playerId? row).map Prod.fst).filter
          (· ∉ state.1.ids)).eraseDups := by
  induction rows generalizing state with
  | nil => exact (List.append_nil _).symm
  | cons row rows ih =>
      rw [List.foldl_cons, ih]
      cases hrow : t.playerId? row with
      | none => rw [rosterRow_of_none now hrow, List.filterMap_cons, hrow, Option.map_none]
      | some cell =>
          obtain ⟨other, isBot⟩ := cell
          by_cases hthere : other ∈ state.1.ids
          · rw [rosterRow_of_known now hrow hthere, ids_edit _ (t.updatePlayer_id row)]
            simp [hrow, hthere]
          · obtain ⟨p, rfl, hnew⟩ := rosterRow_of_new now hrow hthere
            have hids : ((row :: rows).filterMap fun row => (t.playerId? row).map Prod.fst) =
                p.id :: rows.filterMap fun row => (t.playerId? row).map Prod.fst := by
              rw [List.filterMap_cons, hrow, Option.map_some]
            rw [hnew, ids_add, List.filterMap_append, List.append_assoc, hids,
              eraseDups_of_new hthere]
            rfl

end Rows

/-- The ids in a roster that nobody has, in the order in which they come first. -/
def newcomers (m : Model) (t : Table) : List PlayerId :=
  (t.ids.filter (· ∉ m.ids)).eraseDups

theorem brought_roster (m : Model) (t : Table) :
    (t.rows.foldl (rosterRow now t) (m, [])).2.filterMap Event.brought? = m.newcomers t :=
  brought_rosterRows now t.rows

/-- What a roster with a column for ids does: whom it lists is there, each once, those who were
there before in front and then those it discovers, and of those who were there before only that has
changed which it has columns for. -/
structure Attended (m : Model) (t : Table) (r : Model × List Event) : Prop where
  others : ∃ players, r.1 = { m with players }
  listed : ∀ id, id ∈ r.1.ids ↔ id ∈ t.ids
  distinct : r.1.Distinct
  order : r.1.ids = m.ids.filter (· ∈ t.ids) ++ m.newcomers t
  events : ∃ found : List Player, r.2 = found.map .playerDiscovered ∧
    found.map (·.id) = m.newcomers t
  stayed : ∀ p ∈ m.players, p.id ∈ t.ids →
    r.1.player? p.id = some (t.toldBy t.rows p) ∧ t.Overlays p (t.toldBy t.rows p)

theorem exists_found {events : List Event} (h : ∀ e ∈ events, ∃ p, e = .playerDiscovered p) :
    ∃ found : List Player, events = found.map .playerDiscovered ∧
      found.map (·.id) = events.filterMap Event.brought? := by
  induction events with
  | nil => exact ⟨[], rfl, rfl⟩
  | cons e events ih =>
      obtain ⟨⟨p, rfl⟩, hevents⟩ := List.forall_mem_cons.1 h
      obtain ⟨found, rfl, hids⟩ := ih hevents
      exact ⟨p :: found, rfl, congrArg (p.id :: ·) hids⟩

section Column

variable (h : m.Distinct) (hcolumn : t.HasIds)

include hcolumn

theorem applyRoster_of_column :
    m.applyRoster now t =
      ({ (t.rows.foldl (rosterRow now t) (m, [])).1 with
          players := (t.rows.foldl (rosterRow now t) (m, [])).1.players.filter
            fun p => t.ids.contains p.id },
        (t.rows.foldl (rosterRow now t) (m, [])).2) := by
  unfold applyRoster
  rw [if_neg (t.hasIds_iff.1 hcolumn)]
  rfl

theorem ids_applyRoster :
    (m.applyRoster now t).1.ids =
      (t.rows.foldl (rosterRow now t) (m, [])).1.ids.filter (· ∈ t.ids) := by
  simp only [applyRoster_of_column now hcolumn, ids, List.filter_map, List.contains_eq_mem]
  rfl

theorem order_applyRoster :
    (m.applyRoster now t).1.ids = m.ids.filter (· ∈ t.ids) ++ m.newcomers t := by
  have hnew : (m.newcomers t).filter (· ∈ t.ids) = m.newcomers t := by
    refine List.filter_eq_self.2 fun id hid => ?_
    rw [newcomers, List.mem_eraseDups] at hid
    exact decide_eq_true (List.mem_of_mem_filter hid)
  rw [ids_applyRoster now hcolumn, (discovers_roster now m t).ids, brought_roster,
    List.filter_append, hnew]

theorem events_applyRoster :
    ∃ found : List Player, (m.applyRoster now t).2 = found.map .playerDiscovered ∧
      found.map (·.id) = m.newcomers t := by
  rw [applyRoster_of_column now hcolumn, ← brought_roster now m t]
  exact exists_found (discovers_roster now m t).discovered

theorem others_applyRoster : ∃ players, (m.applyRoster now t).1 = { m with players } := by
  obtain ⟨players, hrows⟩ : ∃ players, (t.rows.foldl (rosterRow now t) (m, [])).1 =
      { m with players } := others_rosterRows now t.rows
  rw [applyRoster_of_column now hcolumn, hrows]
  exact ⟨_, rfl⟩

include h

theorem attended_applyRoster : m.Attended t (m.applyRoster now t) where
  others := others_applyRoster now hcolumn
  listed id := by
    rw [order_applyRoster now hcolumn]
    simp only [newcomers, List.mem_append, List.mem_filter, List.mem_eraseDups, decide_eq_true_eq]
    tauto
  distinct := (m.refreshes_applyRoster now t).distinct h
  order := order_applyRoster now hcolumn
  events := events_applyRoster now hcolumn
  stayed p hp hid := by
    rw [player?_applyRoster_of_mem now m hid]
    exact ⟨player?_rosterRows now (h.player?_of_mem hp) t.rows, t.overlays_toldBy t.rows p⟩

end Column

end Model

/-- After a roster those are there whom it lists, in the order in which they were there before and
then by their first rows, the new ones are discovered and nothing else happens, and of the others
nothing changes but by its column. Without a column for ids a roster does nothing at all. -/
theorem a_roster_lists_exactly_who_is_there {m : Model} (h : m.Distinct) (now : Instant)
    (t : Table) :
    (t.HasIds → m.Attended t (m.applyRoster now t)) ∧
      (¬ t.HasIds → m.applyRoster now t = (m, [])) := by
  refine ⟨Model.attended_applyRoster now h, fun hnone => ?_⟩
  unfold Model.applyRoster
  rw [t.hasIds_iff, not_not] at hnone
  exact if_pos hnone

theorem a_roster_lists_exactly_who_is_there_with_some_listed_twice :
    let alice : Player := { id := ⟨3⟩, name := "Alice", joinedAt := ⟨0⟩ }
    let bob : Player := { id := ⟨4⟩, name := "Bob", joinedAt := ⟨0⟩, captures := 2 }
    let m : Model := { players := [alice, bob] }
    let t : Table := {
      command := "clientvarlist", header := ["PlayerID", "Kills"]
      rows := [["b7", "1"], ["4", "2"], ["x", "9"], [" 7"], ["4", "5"]] }
    m.Distinct ∧ t.HasIds ∧ m.Attended t (m.applyRoster ⟨1⟩ t) ∧
      (m.applyRoster ⟨1⟩ t).1.ids = [⟨4⟩, ⟨7⟩] ∧
      (m.applyRoster ⟨1⟩ t).1.player? ⟨4⟩ = some { bob with kills := 5 } := by
  intro alice bob m t
  have h : m.Distinct := by decide
  have hcolumn : t.HasIds := .inr (by decide +kernel)
  have hattended := (a_roster_lists_exactly_who_is_there h ⟨1⟩ t).1 hcolumn
  refine ⟨h, hcolumn, hattended, ?_, ?_⟩
  · decide +kernel
  · decide +kernel

end RemoteConsole.Match
