/-! Outcomes of calls, a value or an error, can be compared. -/

namespace ArenaThreads

instance outcomeDecidableEq {ε α : Type} [DecidableEq ε] [DecidableEq α] :
    DecidableEq (Except ε α)
  | .ok first, .ok second =>
    decidable_of_iff (first = second) ⟨fun same => same ▸ rfl, fun same => by injection same⟩
  | .error first, .error second =>
    decidable_of_iff (first = second) ⟨fun same => same ▸ rfl, fun same => by injection same⟩
  | .ok _, .error _ => isFalse nofun
  | .error _, .ok _ => isFalse nofun

end ArenaThreads
