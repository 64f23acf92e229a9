import RemoteConsole.Proofs.Ladder.Standings
import RemoteConsole.Proofs.Store.Continuing

namespace RemoteConsole.Ladder

open List
open Store (Continues Fits RecordFile Shelf TextFits contentOf handleOf)

theorem fits_of_name {e : Entry} (h : TextFits e.name) : Fits e := by
  have htally (t : Tally) : ∀ v ∈ t.values, v.Fits := by
    simp [Tally.values, Store.Value.Fits]
  have hpeaks (k : Peaks) : ∀ v ∈ k.values, v.Fits := by
    simp [Peaks.values, Store.Value.Fits]
  simp only [Fits, Store.Record.values, forall_mem_cons, forall_mem_append]
  exact ⟨trivial, ⟨⟨⟨htally _, htally _⟩, htally _⟩, hpeaks _⟩, trivial, trivial, h,
    fun _ hv => absurd hv not_mem_nil⟩

theorem numbered_numbered (entries : List Entry) :
    numbered (numbered entries) = numbered entries := by
  refine ext_getElem? fun i => ?_
  simp only [numbered, getElem?_mapIdx, Option.map_map]
  rfl

/-- The ranks that entries had before play no part in their places. -/
theorem numbered_bestFirst_unranked (entries : List Entry) :
    numbered (bestFirst (entries.map Entry.unranked)) = numbered (bestFirst entries) := by
  rw [bestFirst_map (f := Entry.unranked) fun _ => rfl,
    numbered_map (f := Entry.unranked) fun _ _ => rfl]

theorem numbered_bestFirst_append (xs : List Entry) (e : Entry) :
    numbered (bestFirst (numbered (bestFirst xs) ++ [e])) =
      numbered (bestFirst (xs ++ [e.unranked])) := by
  calc numbered (bestFirst (numbered (bestFirst xs) ++ [e]))
      = numbered (bestFirst ((numbered (bestFirst xs)).map Entry.unranked ++ [e.unranked])) := by
        rw [← numbered_bestFirst_unranked, map_append, map_cons, map_nil]
    _ = numbered (bestFirst (bestFirst (xs.map Entry.unranked) ++ [e.unranked])) := by
        rw [map_numbered fun _ _ => rfl, bestFirst_map (f := Entry.unranked) fun _ => rfl]
    _ = numbered (bestFirst ((xs ++ [e.unranked]).map Entry.unranked)) := by
        rw [bestFirst_append, map_append, map_cons, map_nil]
        rfl
    _ = numbered (bestFirst (xs ++ [e.unranked])) := numbered_bestFirst_unranked _

namespace Standings

variable {s : Standings}

def collect (file : RecordFile) (records : List Entry) : Standings :=
  records.foldl absorb { file }

def restored (file : RecordFile) (records : List Entry) : Standings :=
  (collect file records).sort.assignRanks

theorem indexed_collect (file : RecordFile) (records : List Entry) :
    (collect file records).Indexed :=
  (growsTo_foldl (fun _ e h => growsTo_absorb h e) records (coherent_empty file).toIndexed).indexed

theorem ranked_restored (file : RecordFile) (records : List Entry) :
    (restored file records).ranked = numbered (bestFirst (collect file records).ranked) := by
  have h := indexed_collect file records
  rw [restored, h.sort.ranked_assignRanks, h.ranked_sort]

theorem collect_append (file : RecordFile) (records : List Entry) (e : Entry) :
    collect file (records ++ [e]) = (collect file records).absorb e := by
  rw [collect, foldl_append]
  rfl

theorem absorb_of_new {e : Entry} (h : s.Indexed) (hnew : e.account ∉ s.entries.map Entry.account) :
    s.absorb e = s.push e := by
  rw [absorb, h.indexOf?_eq_none.2 hnew]

theorem collect_with_file (file other : RecordFile) (records : List Entry) :
    collect file records = { collect other records with file } := by
  have habsorb (s : Standings) (e : Entry) :
      { s with file }.absorb e = { s.absorb e with file } := by
    have hsame : { s with file }.indexOf? e.account = s.indexOf? e.account := rfl
    cases hindex : s.indexOf? e.account with
    | some i => simp only [absorb, hsame, hindex]
    | none => simp only [absorb, hsame, hindex, push]
  have hall (s : Standings) : records.foldl absorb { s with file } =
      { records.foldl absorb s with file } := by
    induction records generalizing s with
    | nil => rfl
    | cons e records ih => rw [foldl_cons, foldl_cons, habsorb, ih]
  exact hall { file := other }

theorem restored_file (file : RecordFile) (records : List Entry) :
    (restored file records).file = file :=
  congrArg Standings.file (collect_with_file file file records)

theorem ranked_foldl_absorb {records : List Entry} (h : s.Indexed)
    (hnew : ((s.ranked ++ records).map Entry.account).Nodup) :
    (records.foldl absorb s).ranked = s.ranked ++ records := by
  induction records generalizing s with
  | nil => rw [foldl_nil, append_nil]
  | cons e records ih =>
      have hfirst : e.account ∉ s.entries.map Entry.account := by
        rw [map_append, map_cons] at hnew
        rw [← (h.ranked_perm.map _).mem_iff]
        exact fun hin => (nodup_append.1 hnew).2.2 _ hin _ mem_cons_self rfl
      have hpushed := h.ranked_push e
      rw [append_cons, ← hpushed] at hnew
      rw [foldl_cons, absorb_of_new h hfirst, ih (h.push (h.indexOf?_eq_none.2 hfirst)) hnew,
        hpushed, append_assoc, singleton_append]

theorem ranked_collect {records : List Entry} (h : (records.map Entry.account).Nodup)
    (file : RecordFile) : (collect file records).ranked = records :=
  ranked_foldl_absorb (coherent_empty file).toIndexed h

theorem openAt_eq_restored {now : UInt64} {shelf after : Shelf} {found : Store.Opened Entry}
    (h : RecordFile.openAt now shelf = (.ok found, after)) :
    openAt now shelf = (.ok (restored found.file found.records), after) := by
  rw [openAt, h]
  rfl

theorem openAt_of_settled {records : List Entry} {shelf : Shelf}
    (h : Store.Settled records shelf) (now : UInt64) :
    ∃ file, openAt now shelf = (.ok (restored file records), shelf) := by
  obtain ⟨file, hopen⟩ := h now
  exact ⟨file, openAt_eq_restored hopen⟩

/-- Whenever the ladder is read from its file again, it has the same entries at the same places. -/
def Survives (s : Standings) (shelf : Shelf) : Prop :=
  ∀ now, ∃ t, openAt now shelf = (.ok t, shelf) ∧ t.ranked = s.ranked

structure Backed (s : Standings) (shelf : Shelf) : Prop where
  coherent : s.Coherent
  held : ∃ records, Continues s.file shelf records ∧ (restored s.file records).ranked = s.ranked

theorem Backed.survives {shelf : Shelf} (h : s.Backed shelf) : s.Survives shelf := by
  obtain ⟨-, records, hfile, hranked⟩ := h
  intro now
  obtain ⟨file, hopen⟩ := openAt_of_settled hfile.settled now
  refine ⟨_, hopen, ?_⟩
  rw [← hranked, ranked_restored, ranked_restored, collect_with_file file s.file]
  rfl

theorem write_inv {shelf written : Shelf} {after : Standings}
    (h : s.write shelf = (.ok (), after, written)) :
    after = { s.assignRanks with file := handleOf s.assignRanks.ranked } ∧
      written = { shelf with node := .file (contentOf s.assignRanks.ranked) } := by
  simp only [write] at h
  split at h
  · cases h
  · rename_i hwrite
    obtain ⟨rfl, rfl⟩ := Store.writeAll_inv hwrite
    cases h
    exact ⟨rfl, rfl⟩

theorem backed_of_write {shelf written : Shelf} {after : Standings} (h : s.Coherent)
    (hnames : ∀ e ∈ s.entries, TextFits e.name)
    (hwrite : s.write shelf = (.ok (), after, written)) : after.Backed written := by
  have hranked := h.toIndexed.ranked_assignRanks
  have hcoherent := h.assignRanks
  obtain ⟨rfl, rfl⟩ := write_inv hwrite
  refine ⟨hcoherent.with_file _, _, Store.continues_of_content (fun e he => ?_) rfl, ?_⟩
  · rw [hranked] at he
    have hname : e.name ∈ s.ranked.map Entry.name := by
      rw [← map_numbered fun _ _ => rfl]
      exact mem_map_of_mem he
    obtain ⟨p, hp, hsame⟩ := mem_map.1 hname
    exact fits_of_name (hsame ▸ hnames p (h.listed.mem_iff.1 hp))
  · -- The file lists the entries by place, so that sorting them again changes nothing.
    have hunique : ((s.assignRanks.ranked.map Entry.unranked).map Entry.account).Nodup := by
      rw [map_map]
      exact (hcoherent.listed.map Entry.account).nodup_iff.2 hcoherent.unique
    calc (restored (handleOf s.assignRanks.ranked) (s.assignRanks.ranked.map Entry.unranked)).ranked
        = numbered (bestFirst (s.assignRanks.ranked.map Entry.unranked)) := by
          rw [ranked_restored, ranked_collect hunique]
      _ = numbered s.assignRanks.ranked := by
          rw [numbered_bestFirst_unranked, bestFirst_of_pairwise hcoherent.pairwise]
      _ = s.assignRanks.ranked := by
          rw [hranked, numbered_numbered]

theorem backed_of_openAt {now : UInt64} {shelf after : Shelf} {found : Store.Opened Entry}
    (hfound : RecordFile.openAt now shelf = (.ok found, after)) (hkept : ¬ found.outcome.Replaces)
    (hopen : openAt now shelf = (.ok s, after)) : s.Backed after := by
  have hcoherent := (coherent_openAt hopen).1
  have hs : restored found.file found.records = s := by
    rw [openAt_eq_restored hfound] at hopen
    exact Except.ok.inj (Prod.mk.inj hopen).1
  have hfile : s.file = found.file := by rw [← hs, restored_file]
  refine ⟨hcoherent, found.records, ?_, ?_⟩
  · rw [hfile]
    exact Store.continues_of_openAt hfound hkept
  · rw [hfile, hs]

theorem append_inv {shelf after : Shelf} {grown : Standings} {e : Entry} (h : s.Indexed)
    (hnew : e.account ∉ s.entries.map Entry.account)
    (happend : s.append e shelf = (.ok (), grown, after)) :
    ∃ offset file, s.file.append e shelf = (.ok (offset, file), after) ∧
      grown = ({ s with file }.push e).sort.assignRanks := by
  simp only [append, h.indexOf?_eq_none.2 hnew] at happend
  split at happend
  · cases happend
  · rename_i offset file shelf' hfile
    cases happend
    exact ⟨offset, file, hfile, rfl⟩

theorem ranked_of_append {shelf after : Shelf} {grown : Standings} {e : Entry} (h : s.Indexed)
    (hnew : e.account ∉ s.entries.map Entry.account)
    (happend : s.append e shelf = (.ok (), grown, after)) :
    grown.ranked = numbered (bestFirst (s.ranked ++ [e])) := by
  obtain ⟨offset, file, -, rfl⟩ := append_inv h hnew happend
  have hfiled : Indexed { s with file } := ⟨h.order, h.index⟩
  have hpushed := hfiled.push (h.indexOf?_eq_none.2 hnew)
  rw [hpushed.sort.ranked_assignRanks, hpushed.ranked_sort, hfiled.ranked_push]
  rfl

theorem Backed.append {shelf after : Shelf} {grown : Standings} (h : s.Backed shelf) {e : Entry}
    (hnew : e.account ∉ s.entries.map Entry.account) (hname : TextFits e.name)
    (happend : s.append e shelf = (.ok (), grown, after)) : grown.Backed after := by
  have hcoherent := (follows_append h.coherent e shelf).coherent
  rw [happend] at hcoherent
  obtain ⟨hs, records, hfile, hranked⟩ := h
  obtain ⟨offset, file, happended, rfl⟩ := append_inv hs.toIndexed hnew happend
  refine ⟨hcoherent, _, hfile.append (fits_of_name hname) happended, ?_⟩
  have hcollected := indexed_collect s.file records
  rw [ranked_restored] at hranked
  have hnewThere : e.account ∉ (collect s.file records).entries.map Entry.account := by
    rw [← (hs.toIndexed.ranked_perm.map _).mem_iff, ← hranked, map_numbered fun _ _ => rfl,
      ((bestFirst_perm _).map _).mem_iff] at hnew
    rwa [← (hcollected.ranked_perm.map _).mem_iff]
  have hagain : (restored file (records ++ [e.unranked])).ranked =
      numbered (bestFirst ((collect s.file records).ranked ++ [e.unranked])) := by
    rw [ranked_restored, collect_with_file file s.file, collect_append,
      absorb_of_new (e := e.unranked) hcollected hnewThere, ← hcollected.ranked_push]
    rfl
  rw [ranked_of_append hs.toIndexed hnew happend, ← hranked, numbered_bestFirst_append]
  exact hagain

end Standings

/-- A ladder right after it was written, or opened from a file that was not given up, and then as
entries of further accounts are appended to it. -/
inductive Unbroken : Standings → Shelf → Prop
  | written {s after : Standings} {shelf written : Shelf} (hs : Reachable s)
      (hnames : ∀ e ∈ s.entries, TextFits e.name)
      (h : s.write shelf = (.ok (), after, written)) : Unbroken after written
  | opened {now : UInt64} {shelf after : Shelf} {found : Store.Opened Entry} {s : Standings}
      (hfound : RecordFile.openAt now shelf = (.ok found, after))
      (hkept : ¬ found.outcome.Replaces) (h : Standings.openAt now shelf = (.ok s, after)) :
      Unbroken s after
  | appended {s grown : Standings} {shelf after : Shelf} {e : Entry} (hs : Unbroken s shelf)
      (hnew : e.account ∉ s.entries.map Entry.account) (hname : TextFits e.name)
      (h : s.append e shelf = (.ok (), grown, after)) : Unbroken grown after

theorem Unbroken.backed {s : Standings} {shelf : Shelf} (h : Unbroken s shelf) :
    s.Backed shelf := by
  induction h with
  | written hs hnames h => exact Standings.backed_of_write hs.coherent hnames h
  | opened hfound hkept h => exact Standings.backed_of_openAt hfound hkept h
  | appended _ hnew hname h ih => exact ih.append hnew hname h

/-- A ladder that was written without a failure, and one to which entries of further accounts were
appended since it was written or read, is read again as it is, with every field and every rank. -/
theorem ladder_survives_restart :
    (∀ (s after : Standings) (shelf written : Shelf), Reachable s →
      (∀ e ∈ s.entries, TextFits e.name) → s.write shelf = (.ok (), after, written) →
        after.Survives written) ∧
    ∀ (s : Standings) (shelf : Shelf), Unbroken s shelf → s.Survives shelf :=
  ⟨fun _ _ _ _ hs hnames h => (Standings.backed_of_write hs.coherent hnames h).survives,
    fun _ _ h => h.backed.survives⟩

theorem ladder_survives_restart_with_a_better_newcomer :
    let ann : Entry := { account := 7, totals := { score := 4 }, name := "Ann", rank := 9 }
    let bob : Entry := { account := 9, totals := { score := 6 }, name := "Bob" }
    let s₀ := Standings.restored (handleOf ([] : List Entry)) []
    let shelf₀ : Shelf := { node := .file (contentOf ([] : List Entry)) }
    let s₁ := (s₀.append ann shelf₀).2.1
    let shelf₁ := (s₀.append ann shelf₀).2.2
    let s₂ := (s₁.write shelf₁).2.1
    let shelf₂ := (s₁.write shelf₁).2.2
    let s₃ := (s₂.append bob shelf₂).2.1
    let shelf₃ := (s₂.append bob shelf₂).2.2
    Standings.openAt 5 {} = (.ok s₀, shelf₀) ∧
      s₁.ranked = [{ ann with rank := 1 }] ∧ s₂.Survives shelf₂ ∧
        s₃.ranked = [{ bob with rank := 1 }, { ann with rank := 2 }] ∧ s₃.Survives shelf₃ := by
  intro ann bob s₀ shelf₀ s₁ shelf₁ s₂ shelf₂ s₃ shelf₃
  have hdone (result : OnLadder Unit) (h : result.1 = .ok ()) :
      result = (.ok (), result.2.1, result.2.2) := Prod.ext h rfl
  have hopen : Standings.openAt 5 {} = (.ok s₀, shelf₀) := rfl
  have hreachable : Reachable (Step.run (.append ann) s₀ shelf₀).2.1 :=
    .next (.opened hopen) (.append ann) shelf₀
  have hnames : ∀ e ∈ s₁.entries, TextFits e.name := by decide +kernel
  have hwrite := hdone (s₁.write shelf₁) (by decide +kernel)
  have happend := hdone (s₂.append bob shelf₂) (by decide +kernel)
  have hwritten : Unbroken s₂ shelf₂ := .written hreachable hnames hwrite
  have hnew : bob.account ∉ s₂.entries.map Entry.account := by decide +kernel
  have hgrown : Unbroken s₃ shelf₃ := .appended hwritten hnew (by decide) happend
  have hranked : s₃.ranked = [{ bob with rank := 1 }, { ann with rank := 2 }] := by
    rw [Standings.ranked_of_append hwritten.backed.coherent.toIndexed hnew happend,
      show s₂.ranked = [{ ann with rank := 1 }] by decide +kernel]
    simp [bestFirst, numbered, mergeSort, Entry.notBelow, ann, bob]
  exact ⟨hopen, by decide +kernel,
    ladder_survives_restart.1 s₁ s₂ shelf₁ shelf₂ hreachable hnames hwrite, hranked,
    ladder_survives_restart.2 s₃ shelf₃ hgrown⟩

end RemoteConsole.Ladder
