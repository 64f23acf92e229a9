import RemoteConsole.Proofs.Ladder.Index
import RemoteConsole.Proofs.Store.Holding

namespace RemoteConsole.Ladder

open List
open Store (Failure RecordFile Shelf)

inductive Step where
  | credit (now : Instant) (started : Option Instant) (winner : Option Team) (tie : Bool)
      (players : List Match.Player)
  | append (e : Entry)
  | write
  | sort
  | erase

def Step.run (step : Step) (s : Standings) (shelf : Shelf) : OnLadder Unit :=
  match step with
  | credit now started winner tie players =>
      (.ok (), (s.credit now started winner tie players).2, shelf)
  | append e => s.append e shelf
  | write => s.write shelf
  | sort => (.ok (), s.sort, shelf)
  | erase => s.erase shelf

/-- The ladders that come of any file by any steps. What a step finds on the shelf may be anything,
so that any of them may fail. -/
inductive Reachable : Standings → Prop
  | opened {now : UInt64} {shelf after : Shelf} {s : Standings}
      (h : Standings.openAt now shelf = (.ok s, after)) : Reachable s
  | next {s : Standings} (h : Reachable s) (step : Step) (shelf : Shelf) :
      Reachable (step.run s shelf).2.1

namespace Standings

/-- Entries, order and index agree, and the order is by score. -/
structure Coherent (s : Standings) : Prop extends Indexed s where
  unique : (s.entries.map Entry.account).Nodup
  listed : s.ranked ~ s.entries
  sorted : s.ranked.Pairwise fun a b => b.totals.score ≤ a.totals.score

structure Numbered (s : Standings) : Prop where
  place : ∀ place e, s.ranked[place]? = some e → e.rank = place + 1
  found : ∀ rank e, s.ofRank? rank = some e ↔ e ∈ s.entries ∧ e.rank = rank
  within : ∀ rank, (s.ofRank? rank).isSome ↔ 1 ≤ rank ∧ rank ≤ s.entries.length

/-- The first account stands ahead of the second. -/
def Leads (s : Standings) (a b : AccountId) : Prop :=
  [a, b] <+ s.ranked.map Entry.account

/-- Of two accounts the one that stood ahead, and has no lower score, still stands ahead. -/
def KeepsTies (s after : Standings) : Prop :=
  ∀ a b x y, s.Leads a b → after.ofAccount? a = some x → after.ofAccount? b = some y →
    y.totals.score ≤ x.totals.score → after.Leads a b

variable {s : Standings}

theorem Indexed.coherent (h : s.Indexed) (hsorted : s.ranked.Pairwise fun a b => a.notBelow b) :
    s.Coherent where
  toIndexed := h
  unique := h.unique
  listed := h.ranked_perm
  sorted := by simpa only [Entry.notBelow, decide_eq_true_eq] using hsorted

theorem Coherent.pairwise (h : s.Coherent) : s.ranked.Pairwise fun a b => a.notBelow b := by
  simpa only [Entry.notBelow, decide_eq_true_eq] using h.sorted

theorem Indexed.coherent_sort (h : s.Indexed) : s.sort.Coherent := by
  refine h.sort.coherent ?_
  rw [h.ranked_sort]
  exact bestFirst_pairwise _

theorem Coherent.assignRanks (h : s.Coherent) : s.assignRanks.Coherent := by
  refine h.toIndexed.assignRanks.coherent ?_
  rw [h.toIndexed.ranked_assignRanks]
  exact numbered_pairwise h.pairwise

theorem Coherent.with_file (h : s.Coherent) (file : RecordFile) : Coherent { s with file } :=
  ⟨⟨h.order, h.index⟩, h.unique, h.listed, h.sorted⟩

theorem coherent_empty (file : RecordFile) : Coherent { file } where
  order := .refl _
  index account i := by simp [indexOf?]
  unique := nodup_nil
  listed := .refl _
  sorted := .nil

theorem Indexed.ofRank?_succ (h : s.Indexed) (place : Nat) :
    s.ofRank? (place + 1) = s.ranked[place]? :=
  (h.ranked_getElem? place).symm

theorem Indexed.numbered (h : s.Indexed)
    (hplace : ∀ place e, s.ranked[place]? = some e → e.rank = place + 1) : s.Numbered where
  place := hplace
  found rank e := by
    cases rank with
    | zero =>
        refine ⟨nofun, fun ⟨he, hrank⟩ => ?_⟩
        obtain ⟨place, hat⟩ := mem_iff_getElem?.1 (h.ranked_perm.mem_iff.2 he)
        exact absurd ((hplace place e hat).symm.trans hrank) (Nat.succ_ne_zero _)
    | succ place =>
        rw [h.ofRank?_succ, ← h.ranked_perm.mem_iff]
        constructor
        · intro hat
          exact ⟨mem_of_getElem? hat, hplace place e hat⟩
        · rintro ⟨he, hrank⟩
          obtain ⟨other, hat⟩ := mem_iff_getElem?.1 he
          rw [hplace other e hat] at hrank
          rwa [← Nat.succ.inj hrank]
  within rank := by
    cases rank with
    | zero => simp [ofRank?]
    | succ place =>
        rw [h.ofRank?_succ, isSome_getElem?, h.ranked_perm.length_eq]
        omega

theorem Indexed.numbered_assignRanks (h : s.Indexed) : s.assignRanks.Numbered := by
  refine h.assignRanks.numbered fun place e hat => ?_
  rw [h.ranked_assignRanks, Ladder.numbered, getElem?_mapIdx] at hat
  obtain ⟨q, -, rfl⟩ := Option.map_eq_some_iff.1 hat
  rfl

theorem Numbered.with_file (h : s.Numbered) (file : RecordFile) : Numbered { s with file } :=
  ⟨h.place, h.found, h.within⟩

structure GrowsTo (s after : Standings) : Prop where
  indexed : after.Indexed
  accounts : s.ranked.map Entry.account <+ after.ranked.map Entry.account

theorem GrowsTo.refl (h : s.Indexed) : GrowsTo s s :=
  ⟨h, .refl _⟩

theorem GrowsTo.trans {between after : Standings} (h : GrowsTo s between)
    (h' : GrowsTo between after) : GrowsTo s after :=
  ⟨h'.indexed, h.accounts.trans h'.accounts⟩

theorem ranked_map_account (s : Standings) :
    s.ranked.map Entry.account = s.order.filterMap ((s.entries.map Entry.account)[·]?) := by
  simp only [ranked, map_filterMap, getElem?_map]

theorem growsTo_of_entries (h : s.Indexed) {entries : List Entry}
    (hsame : entries.map Entry.account = s.entries.map Entry.account) :
    GrowsTo s { s with entries } where
  indexed := h.of_entries hsame
  accounts := by
    rw [ranked_map_account, ranked_map_account, hsame]

theorem growsTo_push (h : s.Indexed) {e : Entry} (hnew : s.indexOf? e.account = none) :
    GrowsTo s (s.push e) where
  indexed := h.push hnew
  accounts := by
    rw [h.ranked_push, map_append]
    exact sublist_append_left _ _

theorem growsTo_upsert (h : s.Indexed) (account : AccountId) {f : Entry → Entry}
    (hf : ∀ e, (f e).account = e.account) : GrowsTo s (s.upsert account f) := by
  unfold upsert
  split
  · exact growsTo_of_entries h (map_modify hf _ _)
  · rename_i hnew
    refine growsTo_push h ?_
    rwa [hf]

theorem growsTo_absorb (h : s.Indexed) (e : Entry) : GrowsTo s (s.absorb e) := by
  unfold absorb
  split
  · exact growsTo_of_entries h (map_modify (Entry.account_merge · e) _ _)
  · rename_i hnew
    exact growsTo_push h hnew

theorem growsTo_foldl {α : Type} {change : Standings → α → Standings}
    (hchange : ∀ s a, s.Indexed → GrowsTo s (change s a)) (as : List α) (h : s.Indexed) :
    GrowsTo s (as.foldl change s) := by
  induction as generalizing s with
  | nil => exact .refl h
  | cons a as ih =>
      have hfirst := hchange s a h
      exact hfirst.trans (ih hfirst.indexed)

theorem growsTo_credited (h : s.Indexed) (now : Instant) (started : Option Instant)
    (winner : Option Team) (tie : Bool) (players : List Match.Player) :
    GrowsTo s (players.foldl (fun s p => s.creditPlayer now started winner tie p) s) := by
  refine growsTo_foldl (fun s p hs => ?_) players h
  exact growsTo_upsert hs p.account fun _ => rfl

theorem KeepsTies.refl (s : Standings) : KeepsTies s s :=
  fun _ _ _ _ hleads _ _ _ => hleads

theorem GrowsTo.keepsTies {after : Standings} (h : GrowsTo s after) : KeepsTies s after.sort := by
  intro a b x y hleads hx hy hscore
  obtain ⟨pair, hpair, haccounts⟩ := sublist_map_iff.1 (hleads.trans h.accounts)
  have hsorted := h.indexed.ranked_sort
  have hsame {account : AccountId} {p q : Entry} (hp : after.sort.ofAccount? account = some p)
      (hq : q ∈ pair) (haccount : q.account = account) : q = p := by
    have hin : q ∈ after.sort.ranked := by
      rw [hsorted, (bestFirst_perm _).mem_iff]
      exact hpair.subset hq
    exact Option.some.inj ((h.indexed.sort.ofAccount?_eq_some.2 ⟨hin, haccount⟩).symm.trans hp)
  match pair, haccounts with
  | [p, q], haccounts =>
      obtain ⟨hp, haccounts⟩ := cons_eq_cons.1 haccounts
      obtain ⟨hq, -⟩ := cons_eq_cons.1 haccounts
      obtain rfl := hsame hx mem_cons_self hp.symm
      obtain rfl := hsame hy (mem_cons_of_mem _ mem_cons_self) hq.symm
      have hbest := pair_bestFirst (decide_eq_true hscore) hpair
      rw [← hsorted] at hbest
      rw [Leads, hp, hq]
      exact hbest.map Entry.account

theorem KeepsTies.assignRanks {after : Standings} (h : KeepsTies s after) (hafter : after.Indexed) :
    KeepsTies s after.assignRanks := by
  have hbefore {account : AccountId} {x : Entry}
      (hx : after.assignRanks.ofAccount? account = some x) :
      ∃ p, after.ofAccount? account = some p ∧ p.totals = x.totals := by
    have hsame := ofAccount?_assignRanks after account
    rw [hx] at hsame
    obtain ⟨p, hp, hpx⟩ := Option.map_eq_some_iff.1 hsame.symm
    have htotals : p.unranked.totals = x.unranked.totals := congrArg Entry.totals hpx
    exact ⟨p, hp, htotals⟩
  intro a b x y hleads hx hy hscore
  obtain ⟨p, hp, hpx⟩ := hbefore hx
  obtain ⟨q, hq, hqy⟩ := hbefore hy
  rw [← hpx, ← hqy] at hscore
  have hstill := h a b p q hleads hp hq hscore
  rw [Leads, hafter.ranked_assignRanks, map_numbered fun _ _ => rfl]
  exact hstill

theorem coherent_openAt {now : UInt64} {shelf after : Shelf}
    (h : openAt now shelf = (.ok s, after)) : s.Coherent ∧ s.Numbered := by
  unfold openAt at h
  split at h
  · cases h
  · rename_i found shelf _
    cases h
    have hgrows := growsTo_foldl (fun _ e h => growsTo_absorb h e) found.records
      (coherent_empty found.file).toIndexed
    exact ⟨hgrows.indexed.coherent_sort.assignRanks, hgrows.indexed.sort.numbered_assignRanks⟩

structure Follows (step : Step) (s : Standings) (result : Except Failure Unit)
    (after : Standings) : Prop where
  coherent : after.Coherent
  keepsTies : s.KeepsTies after
  written : step = .write → after.Numbered
  appended : ∀ e, step = .append e → result = .ok () → after.Numbered

theorem follows_append (h : s.Coherent) (e : Entry) (shelf : Shelf) :
    Follows (.append e) s (s.append e shelf).1 (s.append e shelf).2.1 := by
  have hgrown {after : Standings} (hafter : GrowsTo s after) (result : Except Failure Unit) :
      Follows (.append e) s result after.sort.assignRanks :=
    ⟨hafter.indexed.coherent_sort.assignRanks, hafter.keepsTies.assignRanks hafter.indexed.sort,
      nofun, fun _ _ _ => hafter.indexed.sort.numbered_assignRanks⟩
  unfold append
  split
  · rename_i i hi
    rw [h.index] at hi
    have hsame : (s.entries.set i e).map Entry.account = s.entries.map Entry.account := by
      rw [map_set]
      obtain ⟨hlt, hget⟩ := List.getElem?_eq_some_iff.1 hi
      rw [← hget, set_getElem_self]
    exact hgrown (growsTo_of_entries h.toIndexed hsame) _
  · rename_i hnew
    split
    · exact ⟨h, .refl s, nofun, nofun⟩
    · rename_i file _ _
      have hfile := (h.with_file file).toIndexed
      exact hgrown ⟨(growsTo_push hfile hnew).indexed, (growsTo_push hfile hnew).accounts⟩ _

theorem follows_write (h : s.Coherent) (shelf : Shelf) :
    Follows .write s (s.write shelf).1 (s.write shelf).2.1 := by
  have hkeeps := (KeepsTies.refl s).assignRanks h.toIndexed
  have hnumbered := h.toIndexed.numbered_assignRanks
  dsimp only [write]
  split
  · exact ⟨h.assignRanks, hkeeps, fun _ => hnumbered, nofun⟩
  · exact ⟨h.assignRanks.with_file _, hkeeps, fun _ => hnumbered.with_file _, nofun⟩

theorem follows_erase (s : Standings) (shelf : Shelf) :
    Follows .erase s (s.erase shelf).1 (s.erase shelf).2.1 := by
  have hempty (file : RecordFile) (result : Except Failure Unit) :
      Follows .erase s result { file } :=
    ⟨coherent_empty file, nofun, nofun, nofun⟩
  unfold erase
  split
  · exact hempty _ _
  · exact hempty _ _

theorem follows_run (h : s.Coherent) (step : Step) (shelf : Shelf) :
    Follows step s (step.run s shelf).1 (step.run s shelf).2.1 := by
  cases step with
  | credit now started winner tie players =>
      have hgrows := growsTo_credited h.toIndexed now started winner tie (players.filter qualifies)
      exact ⟨hgrows.indexed.coherent_sort, hgrows.keepsTies, nofun, nofun⟩
  | append e => exact follows_append h e shelf
  | write => exact follows_write h shelf
  | sort =>
      have hgrows := GrowsTo.refl h.toIndexed
      exact ⟨h.toIndexed.coherent_sort, hgrows.keepsTies, nofun, nofun⟩
  | erase => exact follows_erase s shelf

end Standings

theorem Reachable.coherent {s : Standings} (h : Reachable s) : s.Coherent := by
  induction h with
  | opened h => exact (Standings.coherent_openAt h).1
  | next _ step shelf ih => exact (Standings.follows_run ih step shelf).coherent

/-- Whatever file a ladder comes from and whatever is done with it, even where its file cannot be
written: order and index fit the entries, no account stands twice, better scores come first, ties
keep their order, and the ranks are the places after an opening, an append and a write. -/
theorem ladder_stays_coherent :
    (∀ (now : UInt64) (shelf after : Shelf) (s : Standings),
      Standings.openAt now shelf = (.ok s, after) → s.Numbered) ∧
    ∀ s : Standings, Reachable s → s.Coherent ∧ ∀ (step : Step) (shelf : Shelf),
      Standings.Follows step s (step.run s shelf).1 (step.run s shelf).2.1 := by
  refine ⟨fun _ _ _ _ h => (Standings.coherent_openAt h).2, fun s hs => ?_⟩
  exact ⟨hs.coherent, Standings.follows_run hs.coherent⟩

theorem ladder_stays_coherent_with_an_account_twice_in_the_file :
    let records : List Entry := [{ account := 7, totals := { score := 4 } },
      { account := 9, totals := { score := 9 } }, { account := 7, totals := { score := 5 } }]
    let shelf : Shelf := { node := .file (Store.contentOf records) }
    let s := (records.foldl Standings.absorb { file := Store.handleOf records }).sort.assignRanks
    let step := Step.append { account := 8, totals := { score := 9 } }
    Standings.openAt 3 shelf = (.ok s, shelf) ∧ s.Numbered ∧ Reachable s ∧ s.Coherent ∧
      (step.run s shelf).1 = .ok () ∧ (step.run s shelf).2.1.Numbered := by
  intro records shelf s step
  have hfits : ∀ e ∈ records, Store.Fits e := by decide
  have hopen : Standings.openAt 3 shelf = (.ok s, shelf) := by
    rw [Standings.openAt, Store.openAt_of_content rfl hfits]
    rfl
  have hreachable : Reachable s := .opened hopen
  obtain ⟨hcoherent, hfollows⟩ := ladder_stays_coherent.2 s hreachable
  have happended : (step.run s shelf).1 = .ok () := rfl
  exact ⟨hopen, ladder_stays_coherent.1 3 shelf shelf s hopen, hreachable, hcoherent, happended,
    (hfollows step shelf).appended _ rfl happended⟩

end RemoteConsole.Ladder
