import Mathlib.Algebra.GroupWithZero.Nat
import RemoteConsole.Proofs.Match.Changes
import RemoteConsole.Proofs.Match.Lookups

namespace RemoteConsole

open GameLog (Entry PlayerTag ObjectKind)
open Match (Player)

namespace Match

inductive Count where
  | kills
  | deaths
  | suicides
  | headshots
  deriving DecidableEq

namespace Count

def of (c : Count) (p : Player) : Nat :=
  match c with
  | kills => p.kills.toNat
  | deaths => p.deaths.toNat
  | suicides => p.suicides.toNat
  | headshots => p.headshots.toNat

def most : Nat :=
  4294967295

end Count

end Match

open Match (Count)

/-- Whose count goes up with a line, by one each. -/
def GameLog.Entry.counted : Entry → Count → List PlayerId
  | .kill killer _ _, .kills => [killer.id]
  | .kill _ victim _, .deaths => [victim.id]
  | .kill killer _ damage, .headshots =>
    if Text.contains damage "Headshot" then [killer.id] else []
  | .death victim .., .deaths => [victim.id]
  | .suicide tag _, .deaths | .suicide tag _, .suicides => [tag.id]
  | _, _ => []

namespace Match

section Lists

variable {α : Type} {p : α → Bool} {g : α → Nat} {x : α} {xs : List α}

theorem sum_changeFirst {f : α → α} {n : Nat} (h : xs.find? p = some x) (hf : g (f x) = g x + n) :
    ((changeFirst p f xs).map g).sum = (xs.map g).sum + n := by
  induction xs with
  | nil => cases h
  | cons y ys ih =>
      rw [changeFirst]
      by_cases hy : p y
      · rw [List.find?_cons_of_pos hy] at h
        cases h
        rw [if_pos hy, List.map_cons, List.map_cons, List.sum_cons, List.sum_cons, hf]
        omega
      · rw [List.find?_cons_of_neg hy] at h
        rw [if_neg hy, List.map_cons, List.map_cons, List.sum_cons, List.sum_cons, ih h]
        omega

theorem sum_eraseP (p : α → Bool) (g : α → Nat) (xs : List α) :
    ((xs.eraseP p).map g).sum + ((xs.find? p).map g).getD 0 = (xs.map g).sum := by
  induction xs with
  | nil => rfl
  | cons y ys ih =>
      by_cases hy : p y
      · rw [List.eraseP_cons_of_pos hy, List.find?_cons_of_pos hy, List.map_cons, List.sum_cons]
        exact Nat.add_comm _ _
      · rw [List.eraseP_cons_of_neg hy, List.find?_cons_of_neg hy, List.map_cons, List.map_cons,
          List.sum_cons, List.sum_cons, ← ih]
        omega

end Lists

namespace Model

variable (c : Count) (m : Model)

def total : Nat :=
  (m.players.map c.of).sum

def held (id : PlayerId) : Nat :=
  ((m.player? id).map c.of).getD 0

/-- What goes with a line: the count of one who leaves or whose place is taken, or of all when a
match begins. -/
def forgotten : Entry → Nat
  | .playerEnter tag .. | .playerExit tag => m.held c tag.id
  | .matchStart _ => m.total c
  | _ => 0

/-- What an id is left with by a line, apart from what goes up. -/
def retained (id : PlayerId) : Entry → Nat
  | .playerEnter tag .. | .playerExit tag => if id = tag.id then 0 else m.held c id
  | .idChange oldId newId =>
    if oldId ∉ m.ids then m.held c id
    else if id = newId then m.held c oldId
    else if id = oldId then 0
    else m.held c id
  | .matchStart _ => 0
  | _ => m.held c id

/-- Nobody's count is about to begin anew. -/
def Below : Prop :=
  ∀ p ∈ m.players, c.of p < Count.most

end Model

structure Sums (c : Count) (weight : PlayerId → Nat) (φ : Model → Nat) : Prop where
  players : ∀ {m after : Model}, after.players = m.players → φ after = φ m
  add : ∀ {m : Model} {p : Player}, p.id ∉ m.ids → c.of p = 0 → φ (m.add p) = φ m
  edit : ∀ {m : Model} {id : PlayerId} {p : Player} {f : Player → Player} {n : Nat},
    m.player? id = some p → (∀ p, (f p).id = p.id) → c.of (f p) = c.of p + n →
    φ (m.edit id f) = φ m + n * weight id

theorem sums_total (c : Count) : Sums c (fun _ => 1) (·.total c) where
  players h := by rw [Model.total, h, Model.total]
  add _ hzero := by simp [Model.total, Model.add, hzero]
  edit hp _ hn := by
    rw [Nat.mul_one]
    exact sum_changeFirst hp hn

theorem sums_held (c : Count) (id : PlayerId) :
    Sums c (fun other => if other = id then 1 else 0) (·.held c id) where
  players h := by rw [Model.held, Model.player?, h, ← Model.player?, Model.held]
  add {m p} hnew hzero := by
    rw [Model.held, Model.player?_add, Model.held]
    by_cases hid : p.id = id
    · rw [hid, ← Model.player?_eq_none_iff] at hnew
      simp [hnew, hid, hzero]
    · simp [hid]
  edit {m other p f n} hp hf hn := by
    rw [Model.held, Model.player?_edit_of_keeps m hf, Model.held]
    by_cases hid : id = other
    · subst hid
      simp [hp, hn]
    · simp [hid, Ne.symm hid]

namespace Model

variable {c : Count} {now : Instant} {m : Model} (h : m.Below c)

include h

theorem Below.edit {f : Player → Player} (hf : ∀ p, c.of (f p) = c.of p) (id : PlayerId) :
    (m.edit id f).Below c := by
  intro p hp
  rcases mem_changeFirst hp with hp | ⟨q, hq, -, rfl⟩
  · exact h p hp
  · rw [hf]
    exact h q hq

theorem Below.touch (tag : PlayerTag) : (m.touch now tag).Below c := by
  unfold Model.touch
  split
  · split
    · exact h
    · refine h.edit (fun p => ?_) tag.id
      cases c <;> rfl
  · intro p hp
    rcases List.mem_append.1 hp with hp | hp
    · exact h p hp
    · have hzero : c.of p = 0 := by
        rw [List.mem_singleton.1 hp]
        cases c <;> rfl
      rw [hzero]
      decide

end Model

theorem toNat_succ {n : UInt32} (h : n.toNat < Count.most) : (n + 1).toNat = n.toNat + 1 := by
  have hfits : n.toNat + 1 < 2 ^ 32 := Nat.add_lt_add_right h 1
  rw [UInt32.toNat_add]
  exact Nat.mod_eq_of_lt hfits

namespace Sums

variable {c : Count} {weight : PlayerId → Nat} {φ : Model → Nat} (hφ : Sums c weight φ)
  {now : Instant} {m : Model}

section Parts

variable {id other : PlayerId} {f g : Player → Player} {n k : Nat}

include hφ

theorem edit_of_mem (hthere : id ∈ m.ids) (hf : ∀ p, (f p).id = p.id)
    (hn : ∀ p ∈ m.players, c.of (f p) = c.of p + n) : φ (m.edit id f) = φ m + n * weight id := by
  obtain ⟨p, hp⟩ := Option.isSome_iff_exists.1 ((m.isSome_player? id).2 hthere)
  exact hφ.edit hp hf (hn p (Model.player?_eq_some_id hp).1)

theorem edit_edit (hid : id ∈ m.ids) (hother : other ∈ m.ids) (hf : ∀ p, (f p).id = p.id)
    (hg : ∀ p, (g p).id = p.id) (hn : ∀ p ∈ m.players, c.of (f p) = c.of p + n)
    (hk : ∀ p ∈ (m.edit id f).players, c.of (g p) = c.of p + k) :
    φ ((m.edit id f).edit other g) = φ m + n * weight id + k * weight other := by
  rw [hφ.edit_of_mem (by rwa [Model.ids_edit m hf]) hg hk, hφ.edit_of_mem hid hf hn]

theorem touch (tag : PlayerTag) : φ (m.touch now tag) = φ m := by
  unfold Model.touch
  split
  · rename_i hknown
    split
    · rfl
    · have hthere : tag.id ∈ m.ids := (m.isSome_player? tag.id).1 hknown
      refine (hφ.edit_of_mem (n := 0) hthere ?_ ?_).trans ?_
      · exact fun _ => rfl
      · intro p _
        cases c <;> rfl
      · rw [Nat.zero_mul, Nat.add_zero]
  · rename_i hnew
    refine hφ.add (mt (m.isSome_player? tag.id).2 hnew) ?_
    cases c <;> rfl

theorem touchOption (tag : Option PlayerTag) : φ (m.touchOption now tag) = φ m := by
  cases tag with
  | none => rfl
  | some tag => exact hφ.touch tag

theorem latch (milestone : Milestone) (tag : PlayerTag) (r : Model × List Event) :
    φ (Model.latch now milestone tag r).1 = φ r.1 := by
  apply hφ.players
  rw [Model.latch_model]

theorem acting (hbelow : m.Below c) (tag : PlayerTag) (event : Player → Event)
    (hf : ∀ p, (f p).id = p.id) (hn : ∀ p, c.of p < Count.most → c.of (f p) = c.of p + n) :
    φ (m.acting now tag f event).1 = φ m + n * weight tag.id := by
  have htouched : (m.touch now tag).Below c := hbelow.touch tag
  have hacted := hφ.edit_of_mem (m.mem_ids_touch now tag) hf fun p hp => hn p (htouched p hp)
  rwa [hφ.touch] at hacted

theorem acting_of_keeps (hbelow : m.Below c) (tag : PlayerTag) (event : Player → Event)
    (hf : ∀ p, (f p).id = p.id) (hc : ∀ p, c.of (f p) = c.of p) :
    φ (m.acting now tag f event).1 = φ m := by
  rw [hφ.acting (n := 0) hbelow tag event hf fun p _ => hc p, Nat.zero_mul, Nat.add_zero]

theorem kill (hbelow : m.Below c) (killer victim : PlayerTag) (damage : String) :
    φ (m.kill now killer victim damage).1 =
      φ m + (((Entry.kill killer victim damage).counted c).map weight).sum := by
  have htouched : ((m.touch now killer).touch now victim).Below c :=
    (hbelow.touch killer).touch victim
  have hkiller : killer.id ∈ ((m.touch now killer).touch now victim).ids :=
    Model.mem_ids_touch_of_mem now _ (m.mem_ids_touch now killer) victim
  have hvictim : victim.id ∈ ((m.touch now killer).touch now victim).ids :=
    Model.mem_ids_touch now _ victim
  have hsame : φ ((m.touch now killer).touch now victim) = φ m := by rw [hφ.touch, hφ.touch]
  simp only [Model.kill, hφ.latch]
  rw [← hsame]
  generalize (m.touch now killer).touch now victim = touched at *
  cases c with
  | kills =>
      refine (hφ.edit_edit (n := 1) (k := 0) hkiller hvictim ?_ ?_ ?_ ?_).trans ?_
      · exact fun _ => rfl
      · exact fun _ => rfl
      · exact fun p hp => toNat_succ (htouched p hp)
      · exact fun _ _ => rfl
      · simp [Entry.counted]
  | deaths =>
      refine (hφ.edit_edit (n := 0) (k := 1) hkiller hvictim ?_ ?_ ?_ ?_).trans ?_
      · exact fun _ => rfl
      · exact fun _ => rfl
      · exact fun _ _ => rfl
      · intro p hp
        refine toNat_succ (htouched.edit ?_ killer.id p hp)
        exact fun _ => rfl
      · simp [Entry.counted]
  | suicides =>
      refine (hφ.edit_edit (n := 0) (k := 0) hkiller hvictim ?_ ?_ ?_ ?_).trans ?_
      · exact fun _ => rfl
      · exact fun _ => rfl
      · exact fun _ _ => rfl
      · exact fun _ _ => rfl
      · simp [Entry.counted]
  | headshots =>
      by_cases hhead : Text.contains damage "Headshot"
      · refine (hφ.edit_edit (n := 1) (k := 0) hkiller hvictim ?_ ?_ ?_ ?_).trans ?_
        · exact fun _ => rfl
        · exact fun _ => rfl
        · intro p hp
          simpa [Count.of, hhead] using toNat_succ (htouched p hp)
        · exact fun _ _ => rfl
        · simp [Entry.counted, hhead]
      · refine (hφ.edit_edit (n := 0) (k := 0) hkiller hvictim ?_ ?_ ?_ ?_).trans ?_
        · exact fun _ => rfl
        · exact fun _ => rfl
        · intro p _
          simp [Count.of, hhead]
        · exact fun _ _ => rfl
        · simp [Entry.counted, hhead]

theorem destroyed (hbelow : m.Below c) (kind : ObjectKind) (object : String)
    (killer : Option PlayerTag) (killerName damage : String) :
    φ (m.destroyed now kind object killer killerName damage).1 = φ m := by
  generalize hstruck : (if kind = .building then
    m.editBuilding object ({ · with destroyed := true, health := 0, armor := 0 }) else m) = struck
  have hplayers : struck.players = m.players := by
    rw [← hstruck]
    split <;> rfl
  have hsame : φ struck = φ m := hφ.players hplayers
  unfold Model.destroyed
  rw [hstruck]
  cases killer with
  | none => exact hsame
  | some tag =>
      have hbelow' : struck.Below c := by
        rw [Model.Below, hplayers]
        exact hbelow
      refine (hφ.latch _ _ _).trans ((hφ.acting_of_keeps hbelow' tag _ ?_ ?_).trans hsame)
      · intro p
        cases kind <;> rfl
      · intro p
        cases c <;> cases kind <;> rfl

theorem captured (hbelow : m.Below c) (tag : PlayerTag) (name : String) (oldTeam : Team) :
    φ (m.captured now tag name oldTeam).1 = φ m := by
  have hacted : φ (m.acting now tag (fun p => { p with captures := p.captures + 1 })
      (.capture · name oldTeam)).1 = φ m := by
    refine hφ.acting_of_keeps hbelow tag _ ?_ ?_
    · exact fun _ => rfl
    · intro p
      cases c <;> rfl
  refine (hφ.latch .firstAction tag _).trans (Eq.trans ?_ hacted)
  exact hφ.players rfl

theorem neutralized (hbelow : m.Below c) (tag : PlayerTag) (name : String) (oldTeam : Team) :
    φ (m.neutralized now tag name oldTeam).1 = φ m := by
  have hacted : φ (m.acting now tag id (.neutralize · name oldTeam)).1 = φ m := by
    refine hφ.acting_of_keeps hbelow tag _ ?_ ?_
    · exact fun _ => rfl
    · exact fun _ => rfl
  refine (hφ.latch .firstAction tag _).trans (Eq.trans ?_ hacted)
  exact hφ.players rfl

theorem deployed (hbelow : m.Below c) (tag : PlayerTag) (object : String) :
    φ (m.deployed now tag object).1 = φ m := by
  refine (hφ.latch _ _ _).trans (hφ.acting_of_keeps hbelow tag _ ?_ ?_)
  · intro p
    cases isBeacon object <;> cases isMine object <;> rfl
  · intro p
    cases c <;> cases isBeacon object <;> cases isMine object <;> rfl

theorem disarmed (tag : PlayerTag) (object : String) (owner : Option PlayerTag) :
    φ (m.disarmed now tag object owner).1 = φ m := by
  simp only [Model.disarmed, hφ.latch, hφ.touchOption]
  rw [hφ.edit_of_mem (n := 0) (m.mem_ids_touch now tag), hφ.touch, Nat.zero_mul, Nat.add_zero]
  · intro p
    cases isBeacon object <;> cases isMine object <;> rfl
  · intro p _
    cases c <;> cases isBeacon object <;> cases isMine object <;> rfl

theorem apply (hbelow : m.Below c) {e : Entry} (he : ¬ Rearranges e) :
    φ (m.apply now e).1 = φ m + ((e.counted c).map weight).sum := by
  have hnobody {after : Model} (hsame : φ after = φ m) (hcounted : e.counted c = []) :
      φ after = φ m + ((e.counted c).map weight).sum := by
    rw [hcounted]
    exact hsame
  cases e with
  | playerEnter | playerExit | idChange | matchStart => exact absurd trivial he
  | kill killer victim damage => exact hφ.kill hbelow killer victim damage
  | death victim killer damage =>
      refine (hφ.latch _ _ _).trans ?_
      cases c with
      | deaths =>
          refine (hφ.acting (n := 1) hbelow victim _ ?_ ?_).trans ?_
          · exact fun _ => rfl
          · exact fun _ => toNat_succ
          · simp [Entry.counted]
      | _ =>
          refine hnobody (hφ.acting_of_keeps hbelow victim _ ?_ ?_) rfl
          · exact fun _ => rfl
          · exact fun _ => rfl
  | suicide tag damage =>
      refine (hφ.latch _ _ _).trans ?_
      cases c with
      | deaths | suicides =>
          refine (hφ.acting (n := 1) hbelow tag _ ?_ ?_).trans ?_
          · exact fun _ => rfl
          · exact fun _ => toNat_succ
          · simp [Entry.counted]
      | _ =>
          refine hnobody (hφ.acting_of_keeps hbelow tag _ ?_ ?_) rfl
          · exact fun _ => rfl
          · exact fun _ => rfl
  | destroyed kind object killer killerName damage =>
      exact hnobody (hφ.destroyed hbelow kind object killer killerName damage) rfl
  | captured tag name oldTeam => exact hnobody (hφ.captured hbelow tag name oldTeam) rfl
  | neutralized tag name oldTeam => exact hnobody (hφ.neutralized hbelow tag name oldTeam) rfl
  | deployed tag object => exact hnobody (hφ.deployed hbelow tag object) rfl
  | disarmed tag object owner => exact hnobody (hφ.disarmed tag object owner) rfl
  | voteCalled team topic tag params => exact hnobody (hφ.touchOption tag) rfl
  | playerKick | teamJoin | nameChange | chat | teamChat | adminLogin | adminLogout
  | adminGranted =>
      refine hnobody (hφ.acting_of_keeps hbelow _ _ ?_ ?_) rfl
      · exact fun _ => rfl
      · intro p
        cases c <;> rfl
  | matchEnd | hostChat | voteResults | voteCancelled | mapChanging | mapLoaded | mapStart
  | consoleCommand | consoleSubscribed | consoleUnsubscribed | unknown =>
      exact hnobody (hφ.players rfl) rfl

end Parts

include hφ in
theorem enter (h : m.Distinct) (tag : PlayerTag) (ip hardwareId : String) (account : AccountId) :
    φ (m.enter now tag ip hardwareId account).1 = φ (m.remove tag.id) := by
  refine hφ.add ((m.remove tag.id).player?_eq_none_iff.1 (h.player?_remove tag.id)) ?_
  cases c <;> rfl

end Sums

theorem sum_map_one {α : Type} (xs : List α) : (xs.map fun _ => 1).sum = xs.length := by
  rw [List.map_const', List.sum_replicate_nat, Nat.mul_one]

theorem sum_map_count (id : PlayerId) (ids : List PlayerId) :
    (ids.map fun other => if other = id then 1 else 0).sum = ids.count id := by
  induction ids with
  | nil => rfl
  | cons other ids ih =>
      rw [List.map_cons, List.sum_cons, ih, List.count_cons, Nat.add_comm]
      simp only [beq_iff_eq]

theorem not_mem_replaced {ids : List PlayerId} (h : ids.Nodup) {oldId newId : PlayerId}
    (hne : oldId ≠ newId) : oldId ∉ changeFirst (· == oldId) (fun _ => newId) ids := by
  induction ids with
  | nil => exact List.not_mem_nil
  | cons id ids ih =>
      obtain ⟨hid, hids⟩ := List.nodup_cons.1 h
      by_cases hold : id = oldId
      · subst hold
        simp [changeFirst, hne, hid]
      · simp [changeFirst, hold, Ne.symm hold, ih hids]

namespace Model

variable (c : Count) (now : Instant) (m : Model)

theorem total_remove (id : PlayerId) : (m.remove id).total c + m.held c id = m.total c := by
  rw [held, player?]
  exact sum_eraseP _ c.of m.players

theorem changeId_model (oldId newId : PlayerId) :
    (m.changeId oldId newId).1 = m.edit oldId ({ · with id := newId }) := by
  unfold changeId
  split
  · rename_i hnone
    rw [edit, changeFirst_of_forall]
    exact fun p hp hid => absurd hid (List.find?_eq_none.1 hnone p hp)
  · rfl

theorem ids_changeId (oldId newId : PlayerId) :
    (m.changeId oldId newId).1.ids = changeFirst (· == oldId) (fun _ => newId) m.ids := by
  rw [changeId_model, ids, edit]
  exact map_changeFirst (q := (· == oldId)) (h := fun _ => newId) (fun _ => rfl) (fun _ => rfl) _

theorem total_changeId (oldId newId : PlayerId) :
    (m.changeId oldId newId).1.total c = m.total c := by
  unfold changeId
  split
  · rfl
  · rename_i p hp
    refine sum_changeFirst (n := 0) hp ?_
    cases c <;> rfl

theorem total_matchStart (map : String) : (m.matchStart now map).1.total c = 0 := by
  have hzero : c.of ∘ Player.resetCounters = fun _ => 0 := by
    funext p
    cases c <;> rfl
  simp only [matchStart, total, List.map_map, hzero]
  rw [List.map_const', List.sum_replicate_nat, Nat.mul_zero]

theorem forgotten_of_keeps {e : Entry} (he : ¬ Rearranges e) : m.forgotten c e = 0 := by
  cases e with
  | playerEnter | playerExit | idChange | matchStart => exact absurd trivial he
  | _ => rfl

theorem retained_of_keeps {e : Entry} (he : ¬ Rearranges e) (id : PlayerId) :
    m.retained c id e = m.held c id := by
  cases e with
  | playerEnter | playerExit | idChange | matchStart => exact absurd trivial he
  | _ => rfl

variable {c now m}

theorem total_apply (h : m.Distinct) (hbelow : m.Below c) (e : Entry) :
    (m.apply now e).1.total c + m.forgotten c e = m.total c + (e.counted c).length := by
  by_cases he : Rearranges e
  · cases e with
    | playerEnter tag ip hardwareId account =>
        rw [apply, (sums_total c).enter h]
        exact m.total_remove c tag.id
    | playerExit tag => exact m.total_remove c tag.id
    | idChange oldId newId => exact m.total_changeId c oldId newId
    | matchStart map =>
        rw [apply, total_matchStart]
        exact Nat.add_comm _ _
    | _ => exact absurd he id
  · rw [forgotten_of_keeps c m he, (sums_total c).apply hbelow he, sum_map_one, Nat.add_zero]

theorem held_of_not_mem {id : PlayerId} (h : id ∉ m.ids) : m.held c id = 0 := by
  rw [held, m.player?_eq_none_iff.2 h]
  rfl

theorem held_of_spares {after : Model} {ids : List PlayerId} (h : m.Spares ids after)
    {id : PlayerId} (hid : id ∉ ids) : after.held c id = m.held c id := by
  rw [held, h.player? hid, held]

theorem held_remove (h : m.Distinct) (id other : PlayerId) :
    (m.remove other).held c id = if id = other then 0 else m.held c id := by
  split
  · subst id
    exact held_of_not_mem ((m.remove other).player?_eq_none_iff.1 (h.player?_remove other))
  · rename_i hne
    exact held_of_spares (m.spares_remove (List.mem_singleton_self other))
      (mt List.mem_singleton.1 hne)

theorem held_changeId (h : m.Distinct) {oldId newId : PlayerId}
    (hafter : (m.changeId oldId newId).1.Distinct) (id : PlayerId) :
    (m.changeId oldId newId).1.held c id = m.retained c id (.idChange oldId newId) := by
  rw [retained]
  by_cases hthere : oldId ∈ m.ids
  · obtain ⟨p, hp⟩ := Option.isSome_iff_exists.1 ((m.isSome_player? oldId).2 hthere)
    rw [if_neg (not_not_intro hthere)]
    split
    · rename_i hnew
      have hchanged : { p with id := newId } ∈ (m.changeId oldId newId).1.players := by
        rw [changeId_model]
        exact mem_changeFirst_of_find? hp
      rw [hnew, held, hafter.player?_of_mem hchanged, held, hp]
      cases c <;> rfl
    · rename_i hnew
      split
      · rename_i hold
        subst id
        refine held_of_not_mem ?_
        rw [ids_changeId]
        exact not_mem_replaced h hnew
      · rename_i hold
        have hspares : m.Spares [oldId, newId] (m.changeId oldId newId).1 := by
          rw [changeId_model]
          refine m.spares_edit List.mem_cons_self ?_
          exact fun _ _ => List.mem_cons_of_mem _ (List.mem_singleton_self newId)
        exact held_of_spares hspares (by simp [hold, hnew])
  · have hnone : m.player? oldId = none := m.player?_eq_none_iff.2 hthere
    simp only [changeId, hnone, if_pos hthere]

theorem held_matchStart (map : String) (id : PlayerId) :
    (m.matchStart now map).1.held c id = 0 := by
  rw [held]
  cases hp : (m.matchStart now map).1.player? id with
  | none => rfl
  | some p =>
      obtain ⟨q, -, rfl⟩ := List.mem_map.1 (player?_eq_some_id hp).1
      cases c <;> rfl

theorem held_apply (h : m.Distinct) {e : Entry} (hafter : (m.apply now e).1.Distinct)
    (hbelow : m.Below c) (id : PlayerId) :
    (m.apply now e).1.held c id = m.retained c id e + (e.counted c).count id := by
  by_cases he : Rearranges e
  · cases e with
    | playerEnter tag ip hardwareId account =>
        exact ((sums_held c id).enter h tag ip hardwareId account).trans (held_remove h id tag.id)
    | playerExit tag => exact held_remove h id tag.id
    | idChange oldId newId => exact held_changeId h hafter id
    | matchStart map => exact held_matchStart map id
    | _ => exact absurd he fun he => he
  · rw [retained_of_keeps c m he, (sums_held c id).apply hbelow he, sum_map_count]

end Model

/-- Over all players together a count changes by what a line says and what it forgets, and so does
the count of each, also where one line is about two who are the same or whom nobody has seen. -/
theorem kills_and_deaths_are_conserved {m : Model} (h : m.Distinct) {now : Instant} {e : Entry}
    (hafter : (m.apply now e).1.Distinct) {c : Count} (hbelow : m.Below c) :
    (m.apply now e).1.total c + m.forgotten c e = m.total c + (e.counted c).length ∧
      ∀ id, (m.apply now e).1.held c id = m.retained c id e + (e.counted c).count id :=
  ⟨Model.total_apply h hbelow e, Model.held_apply h hafter hbelow⟩

theorem kills_and_deaths_are_conserved_when_a_stranger_kills_themselves :
    let bob : Player := { id := ⟨4⟩, name := "Bob", joinedAt := ⟨0⟩, kills := 2, headshots := 1 }
    let m : Model := { players := [bob] }
    let alice : PlayerTag := ⟨.sideA, ⟨3⟩, "Alice", false⟩
    let e : Entry := .kill alice alice "Rx_DmgType_Headshot"
    m.Distinct ∧ (m.apply ⟨1⟩ e).1.Distinct ∧ m.Below .headshots ∧
      (m.apply ⟨1⟩ e).1.total .headshots + m.forgotten .headshots e =
        m.total .headshots + (e.counted .headshots).length ∧
      (∀ id, (m.apply ⟨1⟩ e).1.held .headshots id =
        m.retained .headshots id e + (e.counted .headshots).count id) ∧
      (m.apply ⟨1⟩ e).1.total .headshots = 2 ∧ (m.apply ⟨1⟩ e).1.held .headshots ⟨3⟩ = 1 := by
  intro bob m alice e
  have h : m.Distinct := by decide
  have hafter : (m.apply ⟨1⟩ e).1.Distinct := by decide +kernel
  have hbelow : m.Below .headshots := by
    intro p hp
    rw [List.mem_singleton.1 hp]
    decide
  obtain ⟨htotal, heach⟩ := kills_and_deaths_are_conserved h hafter hbelow
  have hcounted : (m.apply ⟨1⟩ e).1.total .headshots = 2 ∧
      (m.apply ⟨1⟩ e).1.held .headshots ⟨3⟩ = 1 := by decide +kernel
  exact ⟨h, hafter, hbelow, htotal, heach, hcounted⟩

end Match

end RemoteConsole
