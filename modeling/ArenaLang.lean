import ArenaLang.Arena.Element
import ArenaLang.Interpreter
import ArenaLang.Native.Sample
import ArenaLang.OutputStream
import ArenaLang.Program.Stored
import ArenaLang.Proofs.Client
import ArenaLang.Proofs.PrivateBlocks
import ArenaLang.Proofs.Buffers
import ArenaLang.Proofs.Representation
import ArenaLang.Proofs.IndependentLists
import ArenaLang.Proofs.Agreement
import ArenaLang.Proofs.Evaluation
import ArenaLang.Proofs.Nesting
import ArenaLang.Proofs.StoredPrograms
import ArenaLang.Proofs.Transparency
import ArenaLang.Proofs.Reentrance
import ArenaLang.Proofs.Runs
import ArenaLang.Proofs.Course
import ArenaLang.Proofs.Following
import ArenaLang.Proofs.ControlFlow
import ArenaLang.Proofs.Failures
import ArenaLang.Proofs.Accepting
import ArenaLang.Proofs.LifeCycle
import ArenaLang.Proofs.LiveCode
import ArenaLang.Proofs.Lockstep
import ArenaLang.Proofs.Logging
import ArenaLang.Proofs.OutputFailures
import ArenaLang.Proofs.Attempts
import ArenaLang.Proofs.Bounds
import ArenaLang.Proofs.FirstFit
import ArenaLang.Proofs.Appending
import ArenaLang.Proofs.Capacities
import ArenaLang.Proofs.Substitution
import ArenaLang.Proofs.Levels
import ArenaLang.Proofs.Footprint
import ArenaLang.Proofs.Building
import ArenaLang.Proofs.Persistence
import ArenaLang.Program.Equality
import ArenaLang.Proofs.Likeness
import ArenaLang.Proofs.Comparing
import ArenaLang.Proofs.Occupancy
import ArenaLang.Proofs.Printing
import ArenaLang.Proofs.Recording
import ArenaLang.Proofs.ExitCodes
import ArenaLang.Proofs.Accounts
