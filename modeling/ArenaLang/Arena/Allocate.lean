import ArenaLang.Arena.Basic

namespace ArenaLang

def Place.next (place : Place) : Place := ⟨place.region + 1, place.offset⟩

def firstFit (layout : Layout) : List Region → Except Fault (Option (Place × List Region))
  | [] => .ok none
  | region :: rest =>
      match region.carve layout with
      | .error fault => .error fault
      | .ok (some (offset, region)) => .ok (some (⟨0, offset⟩, region :: rest))
      | .ok none =>
          match firstFit layout rest with
          | .error fault => .error fault
          | .ok none => .ok none
          | .ok (some (place, rest)) => .ok (some (place.next, region :: rest))

def Layout.request? (layout : Layout) : Option Nat :=
  Word.add? layout.size (layout.align - Region.alignment)

namespace MemoryM

def grow (layout : Layout) : MemoryM Place := do
  let arena := (← get).arena
  match layout.request? with
  | none => refuse (.tooLarge layout.size)
  | some request =>
      match Arena.newRegion arena.system arena.regions.length (arena.regionSize request) with
      | .error refusal => refuse refusal
      | .ok region =>
          match ← ofFault (region.carve layout) with
          | none => refuse (.tooLarge layout.size)
          | some (offset, region) =>
              let count := arena.regions.length + 1
              note (.arenaGrew layout.size region.capacity count)
              setRegions (arena.regions ++ [region])
              return ⟨arena.regions.length, offset⟩

def allocate (layout : Layout) : MemoryM Place := do
  match ← ofFault (firstFit layout (← regions)) with
  | some (place, regions) =>
      setRegions regions
      return place
  | none => grow layout

/-! ## Contents -/

def write (place : Place) (cells : List Cell) : MemoryM Unit := do
  setRegions ((← regions).modify place.region (·.write place.offset cells))

def read (place : Place) (count : Nat) : MemoryM (List Cell) := do
  match (← regions)[place.region]? with
  | some region => return region.read place.offset count
  | none => throw (.faulty .unreadable)

/-! ## Reallocation -/

def reclaim (place : Place) (size : Nat) : MemoryM Unit := do
  let chain ← regions
  match chain[place.region]? with
  | none => return
  | some region =>
      match ← ofFault (region.reclaim? place.offset size) with
      | none => return
      | some region =>
          setRegions (chain.set place.region region)
          note (.blockReclaimed size region.cursor)

/-- Moves a block into a new one of another size. A block of no bytes need not have a place. -/
def reallocate (old : Option Place) (layout : Layout) (size : Nat) : MemoryM Place := do
  match layout.resize? size with
  | none => refuse (.tooLarge size)
  | some resized =>
      let new ← allocate resized
      match old with
      | none => return new
      | some place =>
          let copied := min layout.size size
          if 0 < copied then write new (← read place copied)
          if 0 < layout.size then reclaim place layout.size
          return new

end MemoryM

end ArenaLang
