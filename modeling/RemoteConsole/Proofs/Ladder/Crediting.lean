import Mathlib.Algebra.GroupWithZero.Nat
import Mathlib.Data.List.Induction
import RemoteConsole.Proofs.Ladder.Accounts
import RemoteConsole.Proofs.Ladder.Counters

namespace RemoteConsole.Ladder

open List
open Match (Player)

/-- A player that a match is credited to. -/
def Eligible (p : Player) : Prop :=
  p.isBot = false ∧ p.account ≠ 0 ∧ p.banFlags.bits &&& Ban.Flags.ladder.bits = 0

instance (p : Player) : Decidable (Eligible p) :=
  inferInstanceAs (Decidable (_ ∧ _))

theorem qualifies_eq (p : Player) : Standings.qualifies p = decide (Eligible p) := by
  rw [Bool.eq_iff_iff, decide_eq_true_iff]
  simp [Standings.qualifies, Eligible, Player.isBanned, Ban.Flags.intersects, and_assoc]

def creditedTo (account : AccountId) (players : List Player) : List Player :=
  players.filter fun p => Eligible p ∧ p.account = account

/-- Whether a part of an entry tells of the matches that are played for a team. -/
def Part.tellsOf : Part → Team → Bool
  | .whole, _ => true
  | .sideA, team => team = .sideA
  | .sideB, team => team = .sideB

section

variable (now : Instant) (started : Option Instant) (winner : Option Team) (tie : Bool)

/-- What a player brings to each counter by a match that ends at `now`. -/
def brought (p : Player) : Counter → Nat
  | .feat .score => p.score.toInt.toNat
  | .feat .kills => p.kills.toNat
  | .feat .deaths => p.deaths.toNat
  | .feat .headshotKills => p.headshots.toNat
  | .feat .vehicleKills => p.vehicleKills.toNat
  | .feat .buildingKills => p.buildingKills.toNat
  | .feat .defenceKills => p.defenceKills.toNat
  | .feat .captures => p.captures.toNat
  | .feat .gameTime => (Standings.gameTime now started p).toNat
  | .games => 1
  | .wins => if tie = false ∧ winner = some p.team then 1 else 0
  | .ties => if tie then 1 else 0
  | .feat .beaconPlacements => p.beaconPlacements.toNat
  | .feat .beaconDisarms => p.beaconDisarms.toNat
  | .feat .minePlacements => p.minePlacements.toNat
  | .feat .mineDisarms => p.mineDisarms.toNat

def session (p : Player) : Tally :=
  Tally.ofMatch p (Standings.gameTime now started p) (!tie && winner == some p.team) tie

def withSession (e : Entry) (p : Player) : Entry :=
  e.credit p (session now started winner tie p) now.unix

theorem count_session (p : Player) (c : Counter) :
    (session now started winner tie p).count c = brought now started winner tie p c := by
  cases c with
  | feat f =>
      cases f with
      | score =>
          -- A score below zero brings nothing, and any other fits the wider counter.
          have hlt := p.score.toInt_lt
          have hsmall : p.score.toInt.toNat < UInt64.size := by
            simp only [UInt64.size]
            omega
          exact UInt64.toNat_ofNat_of_lt' hsmall
      | _ => rfl
  | games => rfl
  | wins =>
      by_cases hwon : tie = false ∧ winner = some p.team
      · simp [session, Tally.ofMatch, Tally.count, brought, hwon]
      · have hlost : (!tie && winner == some p.team) = false := by
          simpa using hwon
        simp [session, Tally.ofMatch, Tally.count, brought, hwon, hlost]
  | ties => cases tie <;> rfl

/-- What an entry becomes by the sessions of its account. -/
structure Credited (own : List Player) (old e : Entry) : Prop where
  account : e.account = old.account
  rank : e.rank = old.rank
  tally : ∀ part c, (e.tally part).count c =
    min c.most ((old.tally part).count c +
      ((own.filter fun p => part.tellsOf p.team).map (brought now started winner tie · c)).sum)
  peaks : ∀ f, (old.peaks.best f :: own.map (brought now started winner tie · (.feat f))).max? =
    some (e.peaks.best f)
  lastGame : e.lastGame = if own = [] then old.lastGame else now.unix
  name : e.name = (own.getLast?.map Player.name).getD old.name
  address : e.address =
    ((own.filter (·.address.isKnown)).getLast?.map Player.address).getD old.address

variable {now started winner tie}

theorem tally_withSession (e : Entry) (p : Player) (part : Part) :
    (withSession now started winner tie e p).tally part =
      if part.tellsOf p.team then (e.tally part).add (session now started winner tie p)
      else e.tally part := by
  cases part <;> simp [withSession, Entry.credit, Entry.tally, Part.tellsOf]

theorem Credited.nobody (e : Entry) : Credited now started winner tie [] e e where
  account := rfl
  rank := rfl
  tally part c := by
    have hle := (e.tally part).count_le c
    simp only [filter_nil, map_nil, sum_nil]
    omega
  peaks f := rfl
  lastGame := rfl
  name := rfl
  address := rfl

theorem Credited.concat {own : List Player} {old e : Entry}
    (h : Credited now started winner tie own old e) (p : Player) :
    Credited now started winner tie (own ++ [p]) old (withSession now started winner tie e p) where
  account := h.account
  rank := h.rank
  tally part c := by
    rw [tally_withSession, filter_append, map_append, sum_append]
    by_cases htells : part.tellsOf p.team
    · have hone : [p].filter (fun p => part.tellsOf p.team) = [p] := by simp [htells]
      rw [if_pos htells, Tally.count_add, count_session, h.tally, hone, map_singleton,
        sum_singleton]
      -- It makes no difference whether a sum is cut at each step or once at the end.
      omega
    · have hnone : [p].filter (fun p => part.tellsOf p.team) = [] := by simp [htells]
      rw [if_neg htells, h.tally, hnone]
      rfl
  peaks f := by
    have hpeak : (withSession now started winner tie e p).peaks.best f =
        max (e.peaks.best f) (brought now started winner tie p (.feat f)) := by
      rw [← count_session, ← Peaks.best_ofTally, ← Peaks.best_max]
      rfl
    rw [hpeak, map_append, ← cons_append]
    exact max?_concat (h.peaks f) _
  lastGame := by simp [withSession, Entry.credit]
  name := by simp [withSession, Entry.credit]
  address := by
    simp only [withSession, Entry.credit, filter_append]
    by_cases hknown : p.address.isKnown
    · simp [hknown]
    · simp [hknown, h.address]

theorem credited_foldl (own : List Player) (old : Entry) :
    Credited now started winner tie own old (own.foldl (withSession now started winner tie) old) := by
  induction own using List.reverseRecOn with
  | nil => exact .nobody old
  | append_singleton own p ih =>
      rw [foldl_append]
      exact ih.concat p

end

namespace Standings

variable {s : Standings} (now : Instant) (started : Option Instant) (winner : Option Team)
  (tie : Bool)

theorem local_creditPlayer :
    Local (fun s p => s.creditPlayer now started winner tie p) Player.account fun held p =>
      withSession now started winner tie (held.getD { account := p.account }) p where
  indexed s p h := (growsTo_credited h now started winner tie [p]).indexed
  ofAccount? s p h account := by
    have hupsert := h.ofAccount?_upsert p.account
      (f := (withSession now started winner tie · p)) (fun _ => rfl) account
    exact hupsert

theorem filter_qualifies (account : AccountId) (players : List Player) :
    (players.filter qualifies).filter (·.account == account) = creditedTo account players := by
  rw [filter_filter, creditedTo]
  congr 1
  funext p
  apply Bool.eq_iff_iff.2
  simp [qualifies_eq, and_comm]

/-- The entry of an account has all sessions of the account, and no other. -/
theorem Indexed.ofAccount?_credit (h : s.Indexed) (players : List Player) (account : AccountId) :
    (s.credit now started winner tie players).2.ofAccount? account =
      if creditedTo account players = [] then s.ofAccount? account
      else some ((creditedTo account players).foldl (withSession now started winner tie)
        ((s.ofAccount? account).getD { account })) := by
  have hfold := (local_creditPlayer now started winner tie).ofAccount?_foldl h
    (players.filter qualifies) account
  rw [filter_qualifies] at hfold
  change (foldl _ s (players.filter qualifies)).ofAccount? account = _
  rw [hfold]
  cases hown : creditedTo account players with
  | nil => rfl
  | cons p own =>
      have hp : p ∈ creditedTo account players := by
        rw [hown]
        exact mem_cons_self
      obtain ⟨-, haccount⟩ : Eligible p ∧ p.account = account :=
        of_decide_eq_true (mem_filter.1 hp).2
      rw [if_neg (cons_ne_nil p own), foldl_cons, foldl_some, foldl_cons, haccount]
      rfl

theorem Indexed.credit (h : s.Indexed) (players : List Player) :
    (s.credit now started winner tie players).2.Indexed :=
  (growsTo_credited h now started winner tie (players.filter qualifies)).indexed.sort

theorem credit_fst (players : List Player) :
    (s.credit now started winner tie players).1 = players.countP (Eligible ·) := by
  rw [countP_eq_length_filter]
  simp only [credit, funext qualifies_eq]

end Standings

end RemoteConsole.Ladder
