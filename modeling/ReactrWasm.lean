import ReactrWasm.Basic
import ReactrWasm.Memory
import ReactrWasm.Environment
import ReactrWasm.RoundRobin
import ReactrWasm.FFIResult
import ReactrWasm.Interleaving
import ReactrWasm.Steps
import ReactrWasm.Exclusion
import ReactrWasm.Registry
import ReactrWasm.Deadlock
import ReactrWasm.Refinement
import ReactrWasm.GraphQL
import ReactrWasm.Growth
import ReactrWasm.Writers
import ReactrWasm.Lookup
import ReactrWasm.RoundTrip
import ReactrWasm.Removal
import ReactrWasm.Listen
