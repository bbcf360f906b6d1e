import ArenaLang.Event
import ArenaLang.Arena.Region

/-!
# Arenas

An arena is a chain of regions. A block is carved from the first region with room; if there is
none, a new region is added behind the others, of the configured capacity or larger if the block
needs it. The system decides where a new region lies, or refuses it.

Operations on an arena run in `MemoryM`: they change a `Memory`, which is an arena with its log, and
may fail. A failure is a refusal, which callers must expect, or a fault, which never happens in a
well-formed arena.
-/

namespace ArenaLang

inductive Refusal where
  | outOfMemory (capacity : Nat)
  | tooLarge (size : Nat)
deriving DecidableEq

def Refusal.message : Refusal → String
  | .outOfMemory capacity => "out of memory allocating a " ++ toString capacity ++ " byte region"
  | .tooLarge size => "allocation of " ++ toString size ++ " bytes overflows the address space"

def Refusal.abortMessage : Refusal → String
  | .outOfMemory capacity => "memory allocation of " ++ toString capacity ++ " bytes failed"
  | .tooLarge size => "arena capacity overflow (" ++ toString size ++ " bytes)"

inductive Failure where
  | refused (refusal : Refusal)
  | faulty (fault : Fault)
deriving DecidableEq

/-- Where the system puts a new region: given the number of regions before it and its capacity,
the address of its first byte, or nothing if it refuses. -/
structure System where
  place? : Nat → Nat → Option Nat

namespace System

def pageSize : Nat := 4096

def refusedFrom : Nat := 1 <<< 30

def paged : System := ⟨fun _ capacity => if capacity < refusedFrom then some pageSize else none⟩

end System

structure Options where
  regionCapacity : Nat
deriving DecidableEq

def Options.standard : Options := ⟨8 * 1024⟩

structure Arena where
  system : System
  options : Options
  regions : List Region

structure Stats where
  regions : Nat
  capacity : Nat
  used : Nat
deriving DecidableEq

namespace Arena

def regionSize (arena : Arena) (request : Nat) : Nat := max request arena.options.regionCapacity

def stats (arena : Arena) : Stats where
  regions := arena.regions.length
  capacity := (arena.regions.map Region.capacity).foldr (· + ·) 0
  used := (arena.regions.map Region.cursor).foldr (· + ·) 0

def remaining (arena : Arena) : List Nat := arena.regions.map Region.remaining

def inspect (arena : Arena) : String :=
  "Arena \x7b options: ArenaOptions \x7b default_region_capacity: " ++
    toString arena.options.regionCapacity ++ " \x7d, stats: ArenaStats \x7b regions: " ++
    toString arena.stats.regions ++ ", capacity: " ++ toString arena.stats.capacity ++
    ", used: " ++ toString arena.stats.used ++ " \x7d \x7d"

end Arena

structure Memory where
  arena : Arena
  log : Log

abbrev MemoryM := ExceptT Failure (StateM Memory)

namespace MemoryM

def refuse {α : Type} (refusal : Refusal) : MemoryM α := throw (.refused refusal)

def ofFault {α : Type} : Except Fault α → MemoryM α
  | .ok a => pure a
  | .error fault => throw (.faulty fault)

def note (event : Event) : MemoryM Unit :=
  modify fun memory => { memory with log := memory.log.push event }

def regions : MemoryM (List Region) := return (← get).arena.regions

def setRegions (regions : List Region) : MemoryM Unit :=
  modify fun memory => { memory with arena := { memory.arena with regions } }

end MemoryM

namespace Arena

/-- A region as the system provides it. Regions of no bytes are given one. -/
def newRegion (system : System) (before capacity : Nat) : Except Refusal Region :=
  match Layout.of? (max capacity 1) Region.alignment with
  | none => .error (.tooLarge capacity)
  | some layout =>
      match system.place? before layout.size with
      | none => .error (.outOfMemory layout.size)
      | some base => .ok (.fresh base layout.size)

end Arena

def Memory.create (system : System) (options : Options) (request : Nat) : Except Refusal Memory := do
  let arena : Arena := ⟨system, options, []⟩
  let head ← Arena.newRegion system 0 (arena.regionSize request)
  return ⟨{ arena with regions := [head] }, #[.arenaCreated head.capacity]⟩

def Memory.release (memory : Memory) : Log :=
  let stats := memory.arena.stats
  memory.log.push (.arenaReleased stats.regions stats.capacity stats.used)

end ArenaLang
