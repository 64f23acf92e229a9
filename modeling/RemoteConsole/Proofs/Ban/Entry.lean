import RemoteConsole.Ban.Entry
import RemoteConsole.Proofs.Store.Records

namespace RemoteConsole.Ban

instance : Store.Storable Entry where
  stored b := b
  signature_eq := rfl
  kinds _ := rfl
  ofValues_values _ := rfl
  since_le := by decide
  oldest_holds := by decide
  oldest_le := by decide

instance : Store.Faithful Entry where
  values_of_ofValues {vs b} h := by
    simp only [Store.Record.ofValues?] at h
    split at h
    · cases h
      rfl
    · cases h

instance : Store.Complete Entry where
  isSome_ofValues {vs} h := by
    simp only [Store.Record.schema, schema, List.map_cons, List.map_nil, Store.map_kind_eq_cons,
      List.map_eq_nil_iff] at h
    obtain ⟨flags, _, rfl, issued, _, rfl, duration, _, rfl, account, _, rfl, address, _, rfl,
      networkBits, _, rfl, hardwareId, _, rfl, hostName, _, rfl, name, _, rfl, banner, _, rfl,
      reason, _, rfl, extra, _, rfl, rfl⟩ := h
    rfl

end RemoteConsole.Ban
