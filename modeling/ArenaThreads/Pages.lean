import ArenaThreads.Size
/-! Whole pages: the page size in use and rounding up to it. -/

namespace ArenaThreads.Pages

/-- The page size for what the system reports; no page has a size of zero or less. -/
def ofReport (report : Int) : Nat := if 0 < report then report.toNat else 4096

def saturatingAdd (a b : Nat) : Nat := min (a + b) (wordLimit - 1)

def clearBits (value mask : Nat) : Nat := value - (value &&& mask)

def round (page size : Nat) : Nat := clearBits (saturatingAdd size (page - 1)) (page - 1)

end ArenaThreads.Pages
