import Mathlib.Data.List.Forall2
import RemoteConsole.Proofs.Host.Awaiting
import RemoteConsole.Proofs.Host.Tidings

namespace RemoteConsole

open Match (Model Player Table)

namespace Match

/-- A player without what bans have put on them, and before any lookup of their host name. -/
def Player.unmarked (p : Player) : Player :=
  { p with banFlags := .none, hostName := .unasked }

def Model.unmarked (m : Model) : Model :=
  { m with players := m.players.map Player.unmarked }

theorem Model.unmarked_edit {m : Model} {id : PlayerId} {p q : Player} (hp : m.player? id = some p)
    (hq : q.unmarked = p.unmarked) : (m.edit id fun _ => q).unmarked = m.unmarked := by
  have hplayers : (m.edit id fun _ => q).players.map Player.unmarked =
      m.players.map Player.unmarked := by
    refine map_changeFirst_of_find? fun x hx => ?_
    rw [← Option.some.inj (hp.symm.trans hx)]
    exact hq
  rw [Model.unmarked, hplayers]
  rfl

end Match

theorem Host.unmarked_checkBans (h : Host) (now : Instant) (p : Player) :
    (h.checkBans now p).2.1.unmarked = p.unmarked := by
  obtain ⟨flags, hmarked⟩ := h.checkBans_marks now p
  rw [hmarked]
  rfl

/-- What is told of a player whom an answer discovers: who has that id by then, and behind it the
bans that they have brought up. -/
inductive Retold : Event → List Event → Prop
  | alone {p q : Player} (hid : q.id = p.id) :
      Retold (.playerDiscovered p) [.playerDiscovered q]
  | banned {p q : Player} {kinds : Ban.Flags} (hid : q.id = p.id) :
      Retold (.playerDiscovered p) [.playerDiscovered q, .banMatched q kinds]

namespace Scene

variable (t : Moment) (sc : Scene)

theorem unmarked_screen (id : PlayerId) :
    (sc.screen t id).2.session.model.unmarked = sc.session.model.unmarked := by
  unfold screen
  cases hfound : sc.session.model.player? id with
  | none => rfl
  | some p =>
      dsimp only
      split
      · exact Model.unmarked_edit hfound (sc.host.unmarked_checkBans t.now
          { p with hostName := sc.host.lookUp p.address p.hostName })
      · exact Model.unmarked_edit hfound rfl

theorem id_screened (p : Player) : (sc.screened t p).2.1.id = p.id := by
  unfold screened
  generalize (sc.screen t p.id) = after
  dsimp only
  cases hfound : after.2.session.model.player? p.id with
  | none => rfl
  | some q => exact (Model.player?_eq_some_id hfound).2

theorem attend_discovered (p : Player) :
    sc.attend t (.playerDiscovered p) = ((sc.screened t p).1,
      .playerDiscovered (sc.screened t p).2.1, (sc.screened t p).2.2) :=
  rfl

theorem unmarked_handle (p : Player) :
    (sc.handle t (.playerDiscovered p)).session.model.unmarked = sc.session.model.unmarked := by
  have hscreened : (sc.screened t p).2.2.session.model.unmarked = sc.session.model.unmarked :=
    sc.unmarked_screen t p.id
  unfold handle
  rw [attend_discovered]
  generalize sc.screened t p = screened at hscreened
  obtain ⟨kinds, q, after⟩ := screened
  dsimp only [Event.player?] at hscreened ⊢
  split
  · exact hscreened
  · split
    · exact (congrArg Model.unmarked
        ((after.session.emit (.playerDiscovered q)).request_keeps t.now _).2).trans hscreened
    · exact hscreened

theorem retold_tidings (p : Player) :
    Retold (.playerDiscovered p) (sc.tidings t (.playerDiscovered p)) := by
  have hid := sc.id_screened t p
  unfold tidings
  rw [attend_discovered]
  generalize sc.screened t p = screened at hid
  obtain ⟨kinds, q, after⟩ := screened
  dsimp only [Event.player?]
  cases kinds.isEmpty with
  | true => exact Retold.alone hid
  | false => exact Retold.banned hid

/-- The answer has been applied: the model is the one that its table makes of the old one, and of
those whom it discovers has been told, with the bans that they brought up. -/
structure Applies (table : Table) (sc after : Scene) : Prop where
  model : after.session.model.unmarked = (sc.session.model.applyTable t.now table).1.unmarked
  queue : ∃ told, after.session.queue = sc.session.queue ++ told.flatten ∧
    List.Forall₂ Retold (sc.session.model.applyTable t.now table).2 told
  response : after.session.response = none

theorem retold_handleAll {r : Model × List Event} (h : ∀ e ∈ r.2, ∃ p, e = .playerDiscovered p) :
    (sc.handleAll t r).session.model.unmarked = r.1.unmarked ∧
      ∃ told, (sc.handleAll t r).session.queue = sc.session.queue ++ told.flatten ∧
        List.Forall₂ Retold r.2 told := by
  have hall (sc : Scene) (events : List Event) (h : ∀ e ∈ events, ∃ p, e = .playerDiscovered p) :
      (events.foldl (handle t) sc).session.model.unmarked = sc.session.model.unmarked ∧
        ∃ told, (events.foldl (handle t) sc).session.queue = sc.session.queue ++ told.flatten ∧
          List.Forall₂ Retold events told := by
    induction events generalizing sc with
    | nil => exact ⟨rfl, [], (List.append_nil _).symm, .nil⟩
    | cons e events ih =>
        obtain ⟨p, rfl⟩ := h e List.mem_cons_self
        obtain ⟨hmodel, told, hqueue, htold⟩ := ih (sc.handle t (.playerDiscovered p))
          fun e he => h e (List.mem_cons_of_mem _ he)
        refine ⟨hmodel.trans (sc.unmarked_handle t p), _, ?_, .cons (sc.retold_tidings t p) htold⟩
        rw [List.foldl_cons, hqueue, queue_handle, List.flatten_cons, List.append_assoc]
  exact hall _ r.2 h

theorem applies_applyAnswer? (table : Table) :
    Applies t table sc (sc.applyAnswer? t (some table)) := by
  have hdiscovered := sc.session.model.discovered_of_mem_applyTable t.now table
  rw [applyAnswer?_some]
  have hsame := (tends_handleAll t (sc.onSession ({ · with response := none }))
    (sc.session.model.applyTable t.now table)).continues
  have hretold := (sc.onSession ({ · with response := none })).retold_handleAll t hdiscovered
  exact ⟨hretold.1, hretold.2, hsame.response⟩

end Scene

end RemoteConsole
