import Mathlib.Algebra.GroupWithZero.Nat
import Mathlib.Data.List.Dedup
import RemoteConsole.Proofs.Ladder.Accounts
import RemoteConsole.Proofs.Ladder.Counters
import RemoteConsole.Proofs.Ladder.Restart

namespace RemoteConsole.Ladder

open List
open Store (Fits RecordFile Shelf contentOf handleOf)

theorem tally_merge (e r : Entry) (part : Part) :
    (e.merge r).tally part = (e.tally part).add (r.tally part) := by
  dsimp only [Entry.merge]
  split <;> cases part <;> rfl

theorem peaks_merge (e r : Entry) : (e.merge r).peaks = e.peaks.max r.peaks := by
  dsimp only [Entry.merge]
  split <;> rfl

theorem merge_of_older {e r : Entry} (h : r.lastGame < e.lastGame) :
    (e.merge r).lastGame = e.lastGame ∧ (e.merge r).name = e.name ∧
      (e.merge r).address = e.address := by
  simp [Entry.merge, h]

theorem merge_of_no_older {e r : Entry} (h : ¬ r.lastGame < e.lastGame) :
    (e.merge r).lastGame = r.lastGame ∧ (e.merge r).name = r.name ∧
      (e.merge r).address = if r.address.isKnown then r.address else e.address := by
  simp [Entry.merge, h]

/-- What becomes of all records of an account, in the order of the file. -/
structure Merged (own : List Entry) (e : Entry) : Prop where
  account : ∀ r ∈ own, r.account = e.account
  tally : ∀ part c, (e.tally part).count c =
    min c.most (own.map fun r => (r.tally part).count c).sum
  peaks : ∀ f, (own.map (·.peaks.best f)).max? = some (e.peaks.best f)
  lastGame : (own.map (·.lastGame.toNat)).max? = some e.lastGame.toNat
  latest : ∃ r, (own.filter (·.lastGame = e.lastGame)).getLast? = some r ∧ e.name = r.name ∧
    (r.address.isKnown → e.address = r.address)
  address : e.address ∈ own.map Entry.address

namespace Merged

theorem single (e : Entry) : Merged [e] e where
  account r hr := by rw [mem_singleton.1 hr]
  tally part c := by
    have hle := (e.tally part).count_le c
    simp only [map_singleton, sum_singleton]
    omega
  peaks f := rfl
  lastGame := rfl
  latest := ⟨e, by simp, rfl, fun _ => rfl⟩
  address := mem_cons_self

theorem concat {own : List Entry} {e : Entry} (h : Merged own e) {r : Entry}
    (hr : r.account = e.account) : Merged (own ++ [r]) (e.merge r) where
  account q hq := by
    rw [Entry.account_merge]
    rcases mem_append.1 hq with hq | hq
    · exact h.account q hq
    · rw [mem_singleton.1 hq, hr]
  tally part c := by
    rw [tally_merge, Tally.count_add, h.tally, map_append, sum_append, map_singleton,
      sum_singleton]
    omega
  peaks f := by
    rw [peaks_merge, Peaks.best_max, map_append]
    exact max?_concat (h.peaks f) _
  lastGame := by
    have hmax : (e.merge r).lastGame = max e.lastGame r.lastGame := by
      rw [UInt64.max_def]
      by_cases holder : r.lastGame < e.lastGame
      · rw [(merge_of_older holder).1, if_neg (UInt64.not_le.2 holder)]
      · rw [(merge_of_no_older holder).1, if_pos (UInt64.not_lt.1 holder)]
    rw [hmax, UInt64.toNat_max, map_append]
    exact max?_concat h.lastGame _
  latest := by
    by_cases holder : r.lastGame < e.lastGame
    · obtain ⟨hlast, hname, haddress⟩ := merge_of_older holder
      obtain ⟨q, hq, hqname, hqaddress⟩ := h.latest
      rw [hlast, hname, haddress, filter_append]
      have hnone : [r].filter (·.lastGame = e.lastGame) = [] := by
        simp [UInt64.ne_of_lt holder]
      rw [hnone, append_nil]
      exact ⟨q, hq, hqname, hqaddress⟩
    · -- A record that is no older stands behind all others of the greatest last game.
      obtain ⟨hlast, hname, haddress⟩ := merge_of_no_older holder
      refine ⟨r, ?_, hname, fun hknown => ?_⟩
      · rw [hlast, filter_append]
        simp
      · rw [haddress, if_pos hknown]
  address := by
    rw [map_append, mem_append]
    by_cases holder : r.lastGame < e.lastGame
    · rw [(merge_of_older holder).2.2]
      exact .inl h.address
    · rw [(merge_of_no_older holder).2.2]
      split
      · exact .inr mem_cons_self
      · exact .inl h.address

theorem foldl {own : List Entry} {e : Entry} (h : Merged own e) {records : List Entry}
    (hrecords : ∀ r ∈ records, r.account = e.account) :
    Merged (own ++ records) (records.foldl Entry.merge e) := by
  induction records generalizing own e with
  | nil => rwa [append_nil]
  | cons r records ih =>
      obtain ⟨hr, hrest⟩ := forall_mem_cons.1 hrecords
      rw [append_cons]
      apply ih (h.concat hr)
      rwa [Entry.account_merge]

theorem of_unranked {own : List Entry} {e p : Entry} (h : Merged own p)
    (hsame : p.unranked = e.unranked) : Merged own e := by
  have he : e = { p with rank := e.rank } :=
    calc e = { e.unranked with rank := e.rank } := rfl
      _ = { p.unranked with rank := e.rank } := by rw [hsame]
      _ = { p with rank := e.rank } := rfl
  rw [he]
  exact ⟨h.account, h.tally, h.peaks, h.lastGame, h.latest, h.address⟩

end Merged

namespace Standings

variable {file : RecordFile} {records : List Entry} {account : AccountId} {e : Entry}

theorem ofAccount?_collect (file : RecordFile) (records : List Entry) (account : AccountId) :
    (collect file records).ofAccount? account =
      match records.filter (·.account == account) with
      | [] => none
      | e :: own => some (own.foldl Entry.merge e) := by
  have hfold := local_absorb.ofAccount?_foldl (coherent_empty file).toIndexed records account
  rw [collect, hfold]
  cases records.filter (·.account == account) with
  | nil => rfl
  | cons e own =>
      rw [foldl_cons, foldl_some]
      rfl

theorem merged_collect (h : (collect file records).ofAccount? account = some e) :
    Merged (records.filter (·.account == account)) e := by
  rw [ofAccount?_collect] at h
  have hall : ∀ r ∈ records.filter (·.account == account), r.account = account :=
    fun r hr => beq_iff_eq.1 (mem_filter.1 hr).2
  cases hown : records.filter (·.account == account) with
  | nil => simp [hown] at h
  | cons r own =>
      simp only [hown, Option.some.injEq] at h
      rw [hown, forall_mem_cons] at hall
      rw [← h, ← singleton_append]
      apply (Merged.single r).foldl
      exact fun q hq => (hall.2 q hq).trans hall.1.symm

theorem ofAccount?_restored (file : RecordFile) (records : List Entry) (account : AccountId) :
    ((restored file records).ofAccount? account).map Entry.unranked =
      ((collect file records).ofAccount? account).map Entry.unranked :=
  ofAccount?_assignRanks (collect file records).sort account

theorem merged_restored (h : (restored file records).ofAccount? account = some e) :
    Merged (records.filter (·.account == account)) e := by
  have hsame := ofAccount?_restored file records account
  rw [h] at hsame
  obtain ⟨p, hp, hpe⟩ := Option.map_eq_some_iff.1 hsame.symm
  exact (merged_collect hp).of_unranked hpe

theorem mem_accounts_collect :
    account ∈ (collect file records).entries.map Entry.account ↔
      account ∈ records.map Entry.account := by
  rw [(indexed_collect file records).mem_accounts, ofAccount?_collect, mem_map]
  cases hown : records.filter (·.account == account) with
  | nil =>
      have hnone : ∀ r ∈ records, r.account ≠ account := by
        simpa using filter_eq_nil_iff.1 hown
      simpa using hnone
  | cons r own =>
      have hr : r ∈ records.filter (·.account == account) := by
        rw [hown]
        exact mem_cons_self
      obtain ⟨hin, haccount⟩ := mem_filter.1 hr
      exact iff_of_true ⟨_, rfl⟩ ⟨r, hin, beq_iff_eq.1 haccount⟩

theorem accounts_restored (file : RecordFile) (records : List Entry) :
    (restored file records).entries.map Entry.account ~ (records.map Entry.account).dedup := by
  have hsame : (restored file records).entries.map Entry.account =
      (collect file records).entries.map Entry.account :=
    map_foldl_givePlace (fun _ _ => rfl) _ _
  rw [hsame, perm_ext_iff_of_nodup (indexed_collect file records).unique (nodup_dedup _)]
  intro account
  rw [mem_dedup, mem_accounts_collect]

end Standings

/-- A file that can be read gives one entry for each account, with all that its records count. -/
theorem records_of_an_account_are_merged_without_loss {now : UInt64} {shelf after : Shelf}
    {found : Store.Opened Entry} (h : RecordFile.openAt now shelf = (.ok found, after)) :
    ∃ s, Standings.openAt now shelf = (.ok s, after) ∧
      s.entries.map Entry.account ~ (found.records.map Entry.account).dedup ∧
      ∀ e ∈ s.entries, s.ofAccount? e.account = some e ∧
        Merged (found.records.filter (·.account == e.account)) e := by
  refine ⟨_, Standings.openAt_eq_restored h, Standings.accounts_restored _ _, fun e he => ?_⟩
  have hindexed := (Standings.indexed_collect found.file found.records).sort.assignRanks
  have hfound : (Standings.restored found.file found.records).ofAccount? e.account = some e :=
    hindexed.ofAccount?_eq_some.2 ⟨hindexed.ranked_perm.mem_iff.2 he, rfl⟩
  exact ⟨hfound, Standings.merged_restored hfound⟩

theorem records_of_an_account_are_merged_without_loss_around_another :
    let old : Entry :=
      { account := 42, totals := { score := 18446744073709551605, games := 3 }
        peaks := { kills := 9 }, lastGame := 1600000000, name := "OldName" }
    let other : Entry := { account := 7, totals := { score := 50 } }
    let new : Entry :=
      { account := 42, totals := { score := 100, games := 2 }
        peaks := { kills := 4 }, lastGame := 1700000000, name := "NewName" }
    let found : Store.Opened Entry := ⟨handleOf [old, other, new], [old, other, new], .loaded⟩
    let shelf : Shelf := { node := .file (contentOf [old, other, new]) }
    RecordFile.openAt 3 shelf = (.ok found, shelf) ∧
      ∃ s e, Standings.openAt 3 shelf = (.ok s, shelf) ∧ s.entries.map Entry.account ~ [7, 42] ∧
        s.ofAccount? 42 = some e ∧ (e.tally .whole).count (.feat .score) = UInt64.size - 1 ∧
        (e.tally .whole).count .games = 5 ∧ e.peaks.best .kills = 9 ∧
        e.lastGame = 1700000000 ∧ e.name = "NewName" := by
  intro old other new found shelf
  have hfits : ∀ e ∈ [old, other, new], Fits e := by decide
  have hopen : RecordFile.openAt 3 shelf = (.ok found, shelf) := Store.openAt_of_content rfl hfits 3
  obtain ⟨s, hs, haccounts, hentries⟩ := records_of_an_account_are_merged_without_loss hopen
  have hin : 42 ∈ s.entries.map Entry.account := haccounts.mem_iff.2 (by decide)
  obtain ⟨e, he, haccount⟩ := mem_map.1 hin
  obtain ⟨hfound, hmerged⟩ := hentries e he
  have hown : found.records.filter (·.account == e.account) = [old, new] := by
    rw [haccount]
    decide
  rw [hown] at hmerged
  have hlast : e.lastGame = 1700000000 :=
    UInt64.toNat_inj.1 (Option.some.inj hmerged.lastGame).symm
  obtain ⟨r, hr, hname, -⟩ := hmerged.latest
  rw [hlast] at hr
  have hnew : new = r := Option.some.inj hr
  refine ⟨hopen, s, e, hs, haccounts.trans (by decide), haccount ▸ hfound, ?_, ?_, ?_, hlast, ?_⟩
  · exact (hmerged.tally .whole (.feat .score)).trans (by decide)
  · exact (hmerged.tally .whole .games).trans (by decide)
  · exact Option.some.inj ((hmerged.peaks .kills).symm.trans (by decide))
  · rw [hname, ← hnew]

end RemoteConsole.Ladder
