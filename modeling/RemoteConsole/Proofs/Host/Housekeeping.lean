import RemoteConsole.Host.Receive
import RemoteConsole.Proofs.Ban.Failing
import RemoteConsole.Proofs.Match.Players

namespace RemoteConsole

open Match (Player Model)
open Store (Shelf)

def Host.checkBansAmid (others : Nat → Shelf → Shelf) (h : Host) (now : Instant) (p : Player) :
    Ban.Flags × Player × Host :=
  match h.bans with
  | none => (.none, p, h)
  | some (book, shelf) =>
    let (r, book, shelf) := book.checkAmid others now.unix p shelf
    let h := { h with bans := some (book, shelf) }
    match r with
    | .error _ => (.none, p, h)
    | .ok (kinds, p) => (kinds, p, h)

def Scene.screenAmid (others : Nat → Shelf → Shelf) (t : Moment) (sc : Scene) (id : PlayerId) :
    Ban.Flags × Scene :=
  match sc.session.model.player? id with
  | none => (.none, sc)
  | some p =>
    let p := { p with hostName := sc.host.lookUp p.address p.hostName }
    let (kinds, p, host) :=
      if sc.session.settings.banCheck then sc.host.checkBansAmid others t.now p
      else (.none, p, sc.host)
    (kinds, { sc with host }.onSession fun s => { s with model := s.model.edit id fun _ => p })

theorem Host.checkBansAmid_id (h : Host) (now : Instant) (p : Player) :
    h.checkBansAmid (fun _ shelf => shelf) now p = h.checkBans now p := by
  simp only [checkBansAmid, Ban.Book.checkAmid_id]
  rfl

theorem Scene.screenAmid_id (t : Moment) (sc : Scene) (id : PlayerId) :
    sc.screenAmid (fun _ shelf => shelf) t id = sc.screen t id := by
  simp only [screenAmid, Host.checkBansAmid_id]
  rfl

section Screen

variable {others : Nat → Shelf → Shelf} {t : Moment} {p : Player} {book : Ban.Book} {shelf : Shelf}

theorem Host.checkBansAmid_of_written {h : Host} (hbans : h.bans = some (book, shelf))
    (hsound : book.Sound) (hwritten : book.Written others t.now.unix p shelf) :
    ∃ after, h.checkBansAmid others t.now p = (book.forbidden t.now.unix p,
      { p with banFlags := p.banFlags.union (book.forbidden t.now.unix p) }, after) := by
  obtain ⟨left, after, hcheck⟩ := Ban.Book.checkAmid_of_written hsound hwritten
  refine ⟨{ h with bans := some (left, after) }, ?_⟩
  simp only [checkBansAmid, hbans, hcheck]

theorem Host.checkBansAmid_of_not_written {h : Host} (hbans : h.bans = some (book, shelf))
    (hsound : book.Sound) (hwritten : ¬ book.Written others t.now.unix p shelf) :
    ∃ after, h.checkBansAmid others t.now p = (.none, p, after) := by
  obtain ⟨e, left, after, hcheck⟩ := Ban.Book.checkAmid_of_not_written hsound hwritten
  refine ⟨{ h with bans := some (left, after) }, ?_⟩
  simp only [checkBansAmid, hbans, hcheck]

variable {sc : Scene} {id : PlayerId} (hp : sc.session.model.player? id = some p)
  (hchecks : sc.session.settings.banCheck)
include hp hchecks

theorem Scene.screenAmid_of_check {kinds : Ban.Flags} {q : Player} {host : Host}
    (hcheck : sc.host.checkBansAmid others t.now
      { p with hostName := sc.host.lookUp p.address p.hostName } = (kinds, q, host))
    (hq : q.id = p.id) :
    (sc.screenAmid others t id).1 = kinds ∧
      (sc.screenAmid others t id).2.session.model.player? id = some q := by
  have hscreen : sc.screenAmid others t id = (kinds, { sc with host }.onSession fun s =>
      { s with model := s.model.edit id fun _ => q }) := by
    simp only [screenAmid, hp, hchecks, if_true, hcheck]
  rw [hscreen]
  refine ⟨rfl, Model.player?_edit hp ?_⟩
  rw [hq]
  exact (Model.player?_eq_some_id hp).2

variable (hbans : sc.host.bans = some (book, shelf)) (hsound : book.Sound)
include hbans hsound

theorem Scene.screenAmid_of_written (hwritten : book.Written others t.now.unix p shelf) :
    (sc.screenAmid others t id).1 = book.forbidden t.now.unix p ∧
      ∃ q, (sc.screenAmid others t id).2.session.model.player? id = some q ∧
        q.banFlags = p.banFlags.union (book.forbidden t.now.unix p) := by
  -- the host name is looked up before the check, and no ban asks for it
  let named : Player := { p with hostName := sc.host.lookUp p.address p.hostName }
  have hnamed : book.Written others t.now.unix named shelf := hwritten
  obtain ⟨after, hcheck⟩ := Host.checkBansAmid_of_written hbans hsound hnamed
  obtain ⟨htold, hheld⟩ := screenAmid_of_check hp hchecks hcheck rfl
  exact ⟨htold, _, hheld, rfl⟩

theorem Scene.screenAmid_of_not_written (hwritten : ¬ book.Written others t.now.unix p shelf) :
    (sc.screenAmid others t id).1 = .none ∧
      ∃ q, (sc.screenAmid others t id).2.session.model.player? id = some q ∧
        q.banFlags = p.banFlags := by
  let named : Player := { p with hostName := sc.host.lookUp p.address p.hostName }
  have hnamed : ¬ book.Written others t.now.unix named shelf := hwritten
  obtain ⟨after, hcheck⟩ := Host.checkBansAmid_of_not_written hbans hsound hnamed
  obtain ⟨htold, hheld⟩ := screenAmid_of_check hp hchecks hcheck rfl
  exact ⟨htold, _, hheld, rfl⟩

theorem Scene.screenAmid_tells_iff :
    (∀ b ∈ book.standing t.now.unix p, (sc.screenAmid others t id).1.contains b.flags.kinds) ↔
      book.Written others t.now.unix p shelf ∨
        ∀ b ∈ book.standing t.now.unix p, b.flags.kinds.isEmpty := by
  by_cases hwritten : book.Written others t.now.unix p shelf
  · obtain ⟨htold, -⟩ := screenAmid_of_written hp hchecks hbans hsound hwritten
    rw [htold]
    exact iff_of_true (fun b => Ban.Book.forbidden_contains) (.inl hwritten)
  · obtain ⟨htold, -⟩ := screenAmid_of_not_written hp hchecks hbans hsound hwritten
    rw [htold]
    simp only [hwritten, false_or, Ban.Flags.contains_none]

theorem Scene.screenAmid_marks_iff :
    ∃ q, (sc.screenAmid others t id).2.session.model.player? id = some q ∧
      ((∀ b ∈ book.standing t.now.unix p, q.banFlags.contains b.flags.kinds) ↔
        book.Written others t.now.unix p shelf ∨
          ∀ b ∈ book.standing t.now.unix p, p.banFlags.contains b.flags.kinds) := by
  by_cases hwritten : book.Written others t.now.unix p shelf
  · obtain ⟨-, q, hq, hflags⟩ := screenAmid_of_written hp hchecks hbans hsound hwritten
    refine ⟨q, hq, iff_of_true (fun b hb => ?_) (.inl hwritten)⟩
    rw [hflags]
    exact Ban.Flags.contains_union_right (Ban.Book.forbidden_contains hb) p.banFlags
  · obtain ⟨-, q, hq, hflags⟩ := screenAmid_of_not_written hp hchecks hbans hsound hwritten
    refine ⟨q, hq, ?_⟩
    simp only [hflags, hwritten, false_or]

end Screen

namespace Scene

/-- A check marks a player with all the bans that hold for them exactly if those of their bans that
have run out can be written when they are lifted, one after the other, whatever others do to the
file in between; or if the player carries the marks before. Likewise for the check of a new player
in a session, which tells of these bans under the same condition, or if they forbid nothing. -/
theorem standing_bans_reach_the_player_iff_expired_ones_are_written {book : Ban.Book}
    (hbook : book.Reached) (others : Nat → Shelf → Shelf) (shelf : Shelf) (t : Moment)
    (p : Player) :
    (∀ now p shelf, book.checkAmid (fun _ shelf => shelf) now p shelf = book.check now p shelf) ∧
      (∀ (sc : Scene) id, sc.screenAmid (fun _ shelf => shelf) t id = sc.screen t id) ∧
      ((∀ b ∈ book.standing t.now.unix p,
          (book.checkedAmid others t.now.unix p shelf).banFlags.contains b.flags.kinds) ↔
        book.Written others t.now.unix p shelf ∨
          ∀ b ∈ book.standing t.now.unix p, p.banFlags.contains b.flags.kinds) ∧
      ∀ (sc : Scene) id, sc.host.bans = some (book, shelf) → sc.session.settings.banCheck →
        sc.session.model.player? id = some p →
        ((∀ b ∈ book.standing t.now.unix p,
            (sc.screenAmid others t id).1.contains b.flags.kinds) ↔
          book.Written others t.now.unix p shelf ∨
            ∀ b ∈ book.standing t.now.unix p, b.flags.kinds.isEmpty) ∧
        ∃ q, (sc.screenAmid others t id).2.session.model.player? id = some q ∧
          ((∀ b ∈ book.standing t.now.unix p, q.banFlags.contains b.flags.kinds) ↔
            book.Written others t.now.unix p shelf ∨
              ∀ b ∈ book.standing t.now.unix p, p.banFlags.contains b.flags.kinds) := by
  refine ⟨fun now p shelf => book.checkAmid_id now p shelf, fun sc id => sc.screenAmid_id t id,
    Ban.Book.checkedAmid_contains_iff hbook.sound others t.now.unix p shelf, ?_⟩
  intro sc id hbans hchecks hp
  constructor
  · exact screenAmid_tells_iff hp hchecks hbans hbook.sound
  · exact screenAmid_marks_iff hp hchecks hbans hbook.sound

theorem standing_bans_reach_the_player_iff_expired_ones_are_written_of_two :
    let b : Ban.Entry := { issued := 1, account := 16 }
    let ended : Ban.Entry := { issued := 1, duration := 1, account := 16 }
    let book : Ban.Book := ⟨Store.handleOf [b, ended], [b, ended]⟩
    let shelf : Shelf := { node := .file (Store.contentOf [b, ended]) }
    let removed (_ : Nat) (shelf : Shelf) : Shelf := { shelf with node := .missing }
    let p : Player := { (default : Player) with id := ⟨7⟩, account := 16 }
    let session : Session := .idle { name := "a" } ⟨0⟩
    let sc : Scene := {
      host := { bans := some (book, shelf) }
      session := { session with model := { session.model with players := [p] } } }
    let t : Moment := { now := ⟨5000⟩ }
    Ban.Book.openAt 5 shelf = (.ok book, shelf) ∧ book.standing 5 p = [b] ∧
      book.expired 5 p = [1] ∧ (sc.screen t ⟨7⟩).1.contains b.flags.kinds ∧
      ¬ (sc.screenAmid removed t ⟨7⟩).1.contains b.flags.kinds := by
  intro b ended book shelf removed p session sc t
  have hopen : Ban.Book.openAt 5 shelf = (.ok book, shelf) := by decide +kernel
  have hstanding : book.standing 5 p = [b] := by decide +kernel
  have hexpired : book.expired 5 p = [1] := by decide +kernel
  have hclock : t.now.unix = 5 := by decide
  refine ⟨hopen, hstanding, hexpired, ?_, ?_⟩
  · obtain ⟨-, hscreen, -, hiff⟩ := standing_bans_reach_the_player_iff_expired_ones_are_written
      (.opened hopen) (fun _ shelf => shelf) shelf t p
    obtain ⟨htold, -⟩ := hiff sc ⟨7⟩ rfl rfl rfl
    rw [hclock, hstanding] at htold
    rw [← hscreen]
    refine htold.2 (.inl ?_) b (List.mem_singleton_self b)
    intro done index rest hsplit
    rw [hexpired, eq_comm, List.append_eq_singleton_iff] at hsplit
    obtain ⟨rfl, -⟩ | ⟨-, hnone⟩ := hsplit
    · exact ⟨rfl, _, rfl⟩
    · cases hnone
  · obtain ⟨-, -, -, hiff⟩ := standing_bans_reach_the_player_iff_expired_ones_are_written
      (.opened hopen) removed shelf t p
    obtain ⟨htold, -⟩ := hiff sc ⟨7⟩ rfl rfl rfl
    rw [hclock, hstanding, List.forall_mem_singleton, List.forall_mem_singleton] at htold
    rw [htold]
    rintro (hwritten | hforbids)
    · obtain ⟨-, content, hmissing⟩ := hwritten [] 1 [] hexpired
      cases hmissing
    · exact absurd hforbids (by decide)

/-- The file is gone when the second ban is to be lifted. The first holds and is not told of. -/
theorem a_ban_is_overlooked_when_another_cannot_be_lifted :
    let b : Ban.Entry := { issued := 1, account := 16 }
    let ended : Ban.Entry := { issued := 1, duration := 1, account := 16 }
    let book : Ban.Book := ⟨Store.handleOf [b, ended], [b, ended]⟩
    let p : Player := { (default : Player) with id := ⟨7⟩, account := 16 }
    let session : Session := .idle { name := "a" } ⟨0⟩
    let sc : Scene := {
      host := { bans := some (book, {}) }
      session := { session with model := { session.model with players := [p] } } }
    (Ban.Book.openAt 5 { node := .file (Store.contentOf [b, ended]) }).1 = .ok book ∧
      sc.session.settings.banCheck ∧ b ∈ book.standing 5 p ∧
      (book.check 5 p {}).1 = .error .io ∧
      (sc.screen { now := ⟨5000⟩ } ⟨7⟩).1 = .none ∧
      ((sc.screen { now := ⟨5000⟩ } ⟨7⟩).2.session.model.player? ⟨7⟩).map (·.banFlags) =
        some .none ∧
      ¬ Ban.Flags.none.contains b.flags.kinds := by
  decide +kernel

end Scene

end RemoteConsole
