import RemoteConsole.Proofs.Ladder.Merging

namespace RemoteConsole.Ladder

open List
open Store (Fits RecordFile Shelf contentOf handleOf)

/-- A ladder that is read from a file with these records. -/
inductive ReadFrom (records : List Entry) (s : Standings) : Prop
  | intro {now : UInt64} {shelf after : Shelf} {found : Store.Opened Entry}
      (hfile : RecordFile.openAt now shelf = (.ok found, after))
      (hrecords : found.records = records)
      (hopen : Standings.openAt now shelf = (.ok s, after))

/-- In whatever orders files hold the records, this is the same of the account's entry. -/
def OrderFree {α : Type} (records : List Entry) (account : AccountId) (view : Entry → α) : Prop :=
  ∀ xs ys s t, xs ~ records → ys ~ records → ReadFrom xs s → ReadFrom ys t →
    (s.ofAccount? account).map view = (t.ofAccount? account).map view

/-- The latest of the records tells an address, or none of them does. -/
def AddressTold (records : List Entry) : Prop :=
  (∃ r ∈ records, r.address.isKnown ∧ ∀ q ∈ records, q.lastGame ≤ r.lastGame) ∨
    ∀ r ∈ records, ¬ r.address.isKnown

def Entry.unaddressed (e : Entry) : Entry :=
  { e with address := .unknown }

theorem Entry.eq_of_unaddressed {e f : Entry} (h : e.unaddressed = f.unaddressed)
    (haddress : e.address = f.address) : e = f :=
  calc e = { e.unaddressed with address := e.address } := rfl
    _ = { f.unaddressed with address := f.address } := by rw [h, haddress]
    _ = f := rfl

theorem eq_of_isKnown_eq_false {a : Address} (h : ¬ a.isKnown) : a = .unknown := by
  cases a
  simpa [Address.isKnown, Address.unknown] using h

theorem eq_of_lastGame_eq {records : List Entry} (hdistinct : (records.map Entry.lastGame).Nodup)
    {q r : Entry} (hq : q ∈ records) (hr : r ∈ records) (h : q.lastGame = r.lastGame) : q = r :=
  inj_on_of_nodup_map hdistinct hq hr h

namespace Merged

variable {xs ys : List Entry} {e f : Entry}

theorem le_lastGame (h : Merged xs e) {r : Entry} (hr : r ∈ xs) : r.lastGame ≤ e.lastGame :=
  UInt64.le_iff_toNat_le.2 ((max?_eq_some_iff.1 h.lastGame).2 _ (mem_map_of_mem hr))

theorem unaddressed_eq (hx : Merged xs e) (hy : Merged ys f) (h : xs ~ ys)
    (hdistinct : (xs.map Entry.lastGame).Nodup) (hrank : e.rank = f.rank) :
    e.unaddressed = f.unaddressed := by
  have htally (part : Part) : e.tally part = f.tally part := by
    apply Tally.ext_count
    intro c
    rw [hx.tally, hy.tally, (h.map _).sum_nat]
  have hpeaks : e.peaks = f.peaks := by
    apply Peaks.ext_best
    intro feat
    apply Option.some.inj
    rw [← hx.peaks, ← hy.peaks, max?_perm (h.map _)]
  have hlast : e.lastGame = f.lastGame := by
    apply UInt64.toNat_inj.1
    apply Option.some.inj
    rw [← hx.lastGame, ← hy.lastGame, max?_perm (h.map _)]
  obtain ⟨q, hq, hqname, -⟩ := hx.latest
  obtain ⟨r, hr, hrname, -⟩ := hy.latest
  obtain ⟨hqin, hqlast⟩ := mem_filter.1 (mem_of_getLast? hq)
  obtain ⟨hrin, hrlast⟩ := mem_filter.1 (mem_of_getLast? hr)
  have hsame : q = r := by
    apply eq_of_lastGame_eq hdistinct hqin (h.mem_iff.2 hrin)
    rw [of_decide_eq_true hqlast, of_decide_eq_true hrlast, hlast]
  have haccount : e.account = f.account := by
    rw [← hx.account q hqin, hsame, hy.account r hrin]
  have hname : e.name = f.name := by
    rw [hqname, hrname, hsame]
  have hwhole := htally .whole
  have hsideA := htally .sideA
  have hsideB := htally .sideB
  cases e
  cases f
  simp_all [Entry.unaddressed, Entry.tally]

theorem address_of_latest (h : Merged xs e) (hdistinct : (xs.map Entry.lastGame).Nodup) {r : Entry}
    (hr : r ∈ xs) (hknown : r.address.isKnown) (hlatest : ∀ q ∈ xs, q.lastGame ≤ r.lastGame) :
    e.address = r.address := by
  obtain ⟨q, hq, -, haddress⟩ := h.latest
  obtain ⟨hqin, hqlast⟩ := mem_filter.1 (mem_of_getLast? hq)
  have hsame : q = r := by
    apply eq_of_lastGame_eq hdistinct hqin hr
    apply UInt64.le_antisymm (hlatest q hqin)
    rw [of_decide_eq_true hqlast]
    exact h.le_lastGame hr
  rw [hsame] at haddress
  exact haddress hknown

theorem address_of_none (h : Merged xs e) (hnone : ∀ r ∈ xs, ¬ r.address.isKnown) :
    e.address = .unknown := by
  obtain ⟨r, hr, haddress⟩ := mem_map.1 h.address
  rw [← haddress]
  exact eq_of_isKnown_eq_false (hnone r hr)

theorem address_eq (hx : Merged xs e) (hy : Merged ys f) (h : xs ~ ys)
    (hdistinct : (xs.map Entry.lastGame).Nodup) (htold : AddressTold xs) :
    e.address = f.address := by
  rcases htold with ⟨r, hr, hknown, hlatest⟩ | hnone
  · have hdistinct' : (ys.map Entry.lastGame).Nodup := (h.map _).nodup_iff.1 hdistinct
    rw [hx.address_of_latest hdistinct hr hknown hlatest]
    rw [hy.address_of_latest hdistinct' (h.mem_iff.1 hr) hknown
      fun q hq => hlatest q (h.mem_iff.2 hq)]
  · rw [hx.address_of_none hnone, hy.address_of_none fun r hr => hnone r (h.mem_iff.2 hr)]

end Merged

namespace ReadFrom

variable {records : List Entry} {s : Standings} {account : AccountId} {e : Entry}

theorem eq_restored (h : ReadFrom records s) : ∃ file, s = Standings.restored file records := by
  obtain ⟨hfile, rfl, hopen⟩ := h
  rw [Standings.openAt_eq_restored hfile] at hopen
  exact ⟨_, (Except.ok.inj (Prod.mk.inj hopen).1).symm⟩

theorem coherent (h : ReadFrom records s) : s.Coherent ∧ s.Numbered := by
  obtain ⟨-, -, hopen⟩ := h
  exact Standings.coherent_openAt hopen

theorem accounts (h : ReadFrom records s) :
    s.entries.map Entry.account ~ (records.map Entry.account).dedup := by
  obtain ⟨file, rfl⟩ := h.eq_restored
  exact Standings.accounts_restored file records

theorem exists_ofAccount?_iff (h : ReadFrom records s) :
    (∃ e, s.ofAccount? account = some e) ↔ account ∈ records.map Entry.account := by
  rw [← h.coherent.1.toIndexed.mem_accounts, h.accounts.mem_iff, mem_dedup]

section OfOne

variable (hone : ∀ r ∈ records, r.account = account)
include hone

theorem merged (h : ReadFrom records s) (hfound : s.ofAccount? account = some e) :
    Merged records e := by
  obtain ⟨file, rfl⟩ := h.eq_restored
  have hall : records.filter (·.account == account) = records :=
    filter_eq_self.2 fun r hr => beq_iff_eq.2 (hone r hr)
  rw [← hall]
  exact Standings.merged_restored hfound

theorem rank_eq_one (h : ReadFrom records s) (hfound : s.ofAccount? account = some e) :
    e.rank = 1 := by
  obtain ⟨hcoherent, hnumbered⟩ := h.coherent
  have hall : ∀ a ∈ s.entries.map Entry.account, a = account := by
    intro a ha
    rw [h.accounts.mem_iff, mem_dedup, mem_map] at ha
    obtain ⟨r, hr, rfl⟩ := ha
    exact hone r hr
  have hlength : s.entries.length ≤ 1 := by
    have hunique := hcoherent.unique
    rwa [eq_replicate_of_mem hall, nodup_replicate, length_map] at hunique
  obtain ⟨hin, -⟩ := hcoherent.toIndexed.ofAccount?_eq_some.1 hfound
  have hplace := (hnumbered.found e.rank e).2 ⟨hcoherent.listed.mem_iff.1 hin, rfl⟩
  have hwithin := (hnumbered.within e.rank).1 (by rw [hplace]; rfl)
  omega

end OfOne

end ReadFrom

section Order

variable {records : List Entry} {account : AccountId}

theorem orderFree_of_merged (hone : ∀ r ∈ records, r.account = account) {α : Type}
    {view : Entry → α}
    (hview : ∀ xs ys e f, xs ~ records → ys ~ records → Merged xs e → Merged ys f →
      e.rank = f.rank → view e = view f) : OrderFree records account view := by
  intro xs ys s t hxs hys hs ht
  have honeX : ∀ r ∈ xs, r.account = account := fun r hr => hone r (hxs.mem_iff.1 hr)
  have honeY : ∀ r ∈ ys, r.account = account := fun r hr => hone r (hys.mem_iff.1 hr)
  have hboth : (∃ e, s.ofAccount? account = some e) ↔ ∃ f, t.ofAccount? account = some f := by
    rw [hs.exists_ofAccount?_iff, ht.exists_ofAccount?_iff, (hxs.map _).mem_iff,
      (hys.map _).mem_iff]
  cases hfound : s.ofAccount? account with
  | none =>
      cases hother : t.ofAccount? account with
      | none => rfl
      | some f => simp [hfound, hother] at hboth
  | some e =>
      obtain ⟨f, hother⟩ := hboth.1 ⟨e, hfound⟩
      have hrank : e.rank = f.rank := by
        rw [hs.rank_eq_one honeX hfound, ht.rank_eq_one honeY hother]
      rw [hother]
      apply congrArg some
      exact hview xs ys e f hxs hys (hs.merged honeX hfound) (ht.merged honeY hother) hrank

theorem orderFree_unaddressed (hone : ∀ r ∈ records, r.account = account)
    (hdistinct : (records.map Entry.lastGame).Nodup) :
    OrderFree records account Entry.unaddressed := by
  apply orderFree_of_merged hone
  intro xs ys e f hxs hys hx hy hrank
  apply hx.unaddressed_eq hy (hxs.trans hys.symm) _ hrank
  exact (hxs.map _).nodup_iff.2 hdistinct

theorem orderFree_of_told (hone : ∀ r ∈ records, r.account = account)
    (hdistinct : (records.map Entry.lastGame).Nodup) (htold : AddressTold records) :
    OrderFree records account id := by
  apply orderFree_of_merged hone
  intro xs ys e f hxs hys hx hy hrank
  have hperm := hxs.trans hys.symm
  have hdistinctX : (xs.map Entry.lastGame).Nodup := (hxs.map _).nodup_iff.2 hdistinct
  apply Entry.eq_of_unaddressed (hx.unaddressed_eq hy hperm hdistinctX hrank)
  apply hx.address_eq hy hperm hdistinctX
  rcases htold with ⟨r, hr, hknown, hlatest⟩ | hnone
  · exact .inl ⟨r, hxs.mem_iff.2 hr, hknown, fun q hq => hlatest q (hxs.mem_iff.1 hq)⟩
  · exact .inr fun r hr => hnone r (hxs.mem_iff.1 hr)

theorem foldl_merge_of_older {e : Entry} {own : List Entry}
    (h : ∀ r ∈ own, r.lastGame < e.lastGame) : (own.foldl Entry.merge e).address = e.address := by
  induction own generalizing e with
  | nil => rfl
  | cons r own ih =>
      obtain ⟨hr, hrest⟩ := forall_mem_cons.1 h
      obtain ⟨hlast, -, haddress⟩ := merge_of_older hr
      rw [foldl_cons, ih (by rwa [hlast]), haddress]

theorem readFrom_of_fits (hfits : ∀ r ∈ records, Fits r ∧ r.rank = 0) :
    ReadFrom records (Standings.restored (handleOf records) records) := by
  have hstored : ∀ r ∈ records, Store.Storable.stored r = id r := by
    intro r hr
    cases r
    simpa [Store.Storable.stored, Entry.unranked] using (hfits _ hr).2.symm
  have hnode : ({ node := .file (contentOf records) } : Shelf).node = .file (contentOf records) :=
    rfl
  have hfile := Store.openAt_of_content hnode (fun r hr => (hfits r hr).1) 0
  rw [map_congr_left hstored, map_id] at hfile
  exact .intro hfile rfl (Standings.openAt_eq_restored hfile)

theorem address_restored {file : RecordFile} {e : Entry} {own : List Entry}
    (hone : ∀ r ∈ e :: own, r.account = account) :
    ((Standings.restored file (e :: own)).ofAccount? account).map Entry.address =
      some (own.foldl Entry.merge e).address := by
  have hsame := congrArg (Option.map Entry.address)
    (Standings.ofAccount?_restored file (e :: own) account)
  simp only [Option.map_map] at hsame
  have hall : (e :: own).filter (·.account == account) = e :: own :=
    filter_eq_self.2 fun r hr => beq_iff_eq.2 (hone r hr)
  refine hsame.trans ?_
  rw [Standings.ofAccount?_collect, hall]
  rfl

theorem exists_untold (hdistinct : (records.map Entry.lastGame).Nodup)
    (h : ¬ AddressTold records) :
    ∃ latest r rest, records ~ latest :: r :: rest ∧ ¬ latest.address.isKnown ∧
      r.address.isKnown ∧ ∀ q ∈ r :: rest, q.lastGame < latest.lastGame := by
  simp only [AddressTold, not_or, not_exists, not_and, not_forall, not_not] at h
  obtain ⟨huntold, r, hr, hknown⟩ := h
  obtain ⟨time, htime⟩ := Option.isSome_iff_exists.1
    (isSome_max?_of_mem (mem_map_of_mem (f := fun q : Entry => q.lastGame.toNat) hr))
  obtain ⟨hin, hgreatest⟩ := max?_eq_some_iff.1 htime
  obtain ⟨latest, hlatest, rfl⟩ := mem_map.1 hin
  have hle : ∀ q ∈ records, q.lastGame ≤ latest.lastGame :=
    fun q hq => UInt64.le_iff_toNat_le.2 (hgreatest _ (mem_map_of_mem hq))
  have hnone : ¬ latest.address.isKnown := by
    intro htold
    obtain ⟨q, hq, hlater⟩ := huntold latest hlatest htold
    exact hlater (hle q hq)
  have hne : r ≠ latest := by
    rintro rfl
    exact hnone hknown
  have hrest : r ∈ records.erase latest := (mem_erase_of_ne hne).2 hr
  have hperm : records ~ latest :: r :: (records.erase latest).erase r :=
    (perm_cons_erase hlatest).trans ((perm_cons_erase hrest).cons latest)
  refine ⟨latest, r, _, hperm, hnone, hknown, fun q hq => ?_⟩
  rw [(hperm.map _).nodup_iff, map_cons, nodup_cons] at hdistinct
  apply UInt64.lt_of_le_of_ne (hle q (hperm.mem_iff.2 (mem_cons_of_mem _ hq)))
  intro heq
  rw [← heq] at hdistinct
  exact hdistinct.1 (mem_map_of_mem hq)

theorem told_of_orderFree (hone : ∀ r ∈ records, r.account = account)
    (hdistinct : (records.map Entry.lastGame).Nodup) (hfits : ∀ r ∈ records, Fits r ∧ r.rank = 0)
    (h : OrderFree records account id) : AddressTold records := by
  by_contra hnot
  obtain ⟨latest, r, rest, hperm, huntold, hknown, holder⟩ := exists_untold hdistinct hnot
  have hswapped : records ~ r :: latest :: rest := hperm.trans (.swap _ _ _)
  obtain ⟨hr, hrest⟩ := forall_mem_cons.1 holder
  have hread {own : List Entry} (hown : records ~ own) :
      ReadFrom own (Standings.restored (handleOf own) own) ∧ ∀ r ∈ own, r.account = account :=
    ⟨readFrom_of_fits fun r hr => hfits r (hown.mem_iff.2 hr),
      fun r hr => hone r (hown.mem_iff.2 hr)⟩
  have hsame := h _ _ _ _ hperm.symm hswapped.symm (hread hperm).1 (hread hswapped).1
  have hboth := congrArg (Option.map Entry.address) hsame
  simp only [Option.map_id, id_eq] at hboth
  rw [address_restored (hread hperm).2, address_restored (hread hswapped).2] at hboth
  -- With the latest record in front no address is told, and behind `r` it takes over that of `r`.
  obtain ⟨hlast, -, haddress⟩ := merge_of_no_older (UInt64.lt_asymm hr)
  rw [foldl_merge_of_older holder, foldl_cons,
    foldl_merge_of_older (by rwa [hlast]), haddress, if_neg huntold] at hboth
  rw [Option.some.inj hboth] at huntold
  exact huntold hknown

end Order

/-- Of records of one account with different last games comes the same entry in whatever order they
stand, but for its address. That is the same as well exactly if the latest record tells an address
or none does. -/
theorem merged_entry_is_order_free_iff_its_address_is_told {records : List Entry}
    {account : AccountId} (hone : ∀ r ∈ records, r.account = account)
    (hdistinct : (records.map Entry.lastGame).Nodup) :
    OrderFree records account Entry.unaddressed ∧
      (AddressTold records → OrderFree records account id) ∧
      ((∀ r ∈ records, Fits r ∧ r.rank = 0) → (∀ xs, xs ~ records → ∃ s, ReadFrom xs s) ∧
        (OrderFree records account id → AddressTold records)) := by
  refine ⟨orderFree_unaddressed hone hdistinct, orderFree_of_told hone hdistinct, fun hfits => ?_⟩
  constructor
  · intro xs hxs
    exact ⟨_, readFrom_of_fits fun r hr => hfits r (hxs.mem_iff.1 hr)⟩
  · exact told_of_orderFree hone hdistinct hfits

theorem merged_entry_is_order_free_iff_its_address_is_told_of_three :
    let old : Entry := { account := 7, address := ⟨0x0A000001⟩, lastGame := 100, name := "Old" }
    let new : Entry := { account := 7, lastGame := 200, name := "New" }
    let last : Entry := { account := 7, address := ⟨0x0A000002⟩, lastGame := 300, name := "Last" }
    OrderFree [old, new] 7 Entry.unaddressed ∧ ¬ OrderFree [old, new] 7 id ∧
      OrderFree [old, new, last] 7 id := by
  intro old new last
  have htwo : ∀ r ∈ [old, new], r.account = 7 := by decide
  have hthree : ∀ r ∈ [old, new, last], r.account = 7 := by decide
  obtain ⟨hrest, -, hall⟩ :=
    merged_entry_is_order_free_iff_its_address_is_told htwo (by decide)
  obtain ⟨-, htold, -⟩ :=
    merged_entry_is_order_free_iff_its_address_is_told hthree (by decide)
  refine ⟨hrest, fun hfree => ?_, htold (.inl ⟨last, by simp, by decide, by decide⟩)⟩
  have huntold : ¬ AddressTold [old, new] := by
    simp [AddressTold, Address.isKnown, old, new, Address.unknown]
  exact huntold ((hall (by decide)).2 hfree)

/-- The later record tells no address. It takes over that of the other one if it stands behind it,
and loses it if it stands before it. -/
theorem the_address_can_depend_on_the_order :
    let old : Entry := { account := 7, address := ⟨0x0A000001⟩, lastGame := 100, name := "Old" }
    let new : Entry := { account := 7, lastGame := 200, name := "New" }
    let shelf (records : List Entry) : Shelf := { node := .file (contentOf records) }
    ∃ s t, Standings.openAt 5 (shelf [old, new]) = (.ok s, shelf [old, new]) ∧
      Standings.openAt 5 (shelf [new, old]) = (.ok t, shelf [new, old]) ∧
      (s.ofAccount? 7).map Entry.address = some ⟨0x0A000001⟩ ∧
      (t.ofAccount? 7).map Entry.address = some .unknown := by
  intro old new shelf
  have hopen (records : List Entry) (hfits : ∀ r ∈ records, Fits r) :
      Standings.openAt 5 (shelf records) =
        (.ok (Standings.restored (handleOf records) (records.map Entry.unranked)),
          shelf records) :=
    Standings.openAt_eq_restored (Store.openAt_of_content rfl hfits 5)
  exact ⟨_, _, hopen [old, new] (by decide), hopen [new, old] (by decide),
    address_restored (by decide), address_restored (by decide)⟩

end RemoteConsole.Ladder
