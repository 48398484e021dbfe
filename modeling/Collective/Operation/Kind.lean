/-!
# Kinds of collective operations, element types and reductions

Each of the three enumerations has the integer code under which an external
scheduler knows it.
-/

namespace Collective

/-- The kinds of collective operations. -/
inductive Kind where
  | reduce
  | broadcast
  | allReduce
  | reduceScatter
  | allGather
  | send
  | recv
  | gather
  | scatter
  | allToAll
  | allToAllv
  deriving DecidableEq, Repr, Inhabited

namespace Kind

/-- Every kind, in the order of the codes. -/
def all : List Kind :=
  [.reduce, .broadcast, .allReduce, .reduceScatter, .allGather, .send, .recv,
    .gather, .scatter, .allToAll, .allToAllv]

/-- The code of a kind at the interface of external schedulers. -/
def code : Kind → Int32
  | .reduce => 0
  | .broadcast => 1
  | .allReduce => 2
  | .reduceScatter => 3
  | .allGather => 4
  | .send => 5
  | .recv => 6
  | .gather => 7
  | .scatter => 8
  | .allToAll => 9
  | .allToAllv => 10

/-- The name of a kind in messages. -/
def title : Kind → String
  | .reduce => "Reduce"
  | .broadcast => "Broadcast"
  | .allReduce => "AllReduce"
  | .reduceScatter => "ReduceScatter"
  | .allGather => "AllGather"
  | .send => "Send"
  | .recv => "Recv"
  | .gather => "Gather"
  | .scatter => "Scatter"
  | .allToAll => "AllToAll"
  | .allToAllv => "AllToAllv"

/-- The name of a kind in files: its title in lower case. -/
def word : Kind → String
  | .reduce => "reduce"
  | .broadcast => "broadcast"
  | .allReduce => "allreduce"
  | .reduceScatter => "reducescatter"
  | .allGather => "allgather"
  | .send => "send"
  | .recv => "recv"
  | .gather => "gather"
  | .scatter => "scatter"
  | .allToAll => "alltoall"
  | .allToAllv => "alltoallv"

/-- The kind that a word of a file names. -/
def ofWord? (text : String) : Option Kind :=
  all.find? fun kind => kind.word == text

theorem code_injective {first second : Kind} (same : first.code = second.code) :
    first = second := by
  revert same
  cases first <;> cases second <;> decide

@[simp] theorem ofWord?_word (kind : Kind) : ofWord? kind.word = some kind := by
  cases kind <;> rfl

end Kind

/-- The types of the elements that an operation moves. -/
inductive Element where
  | int8
  | uint8
  | int32
  | uint32
  | int64
  | uint64
  | float16
  | float32
  | float64
  | bfloat16
  deriving DecidableEq, Repr, Inhabited

namespace Element

/-- Every element type, in the order of the codes. -/
def all : List Element :=
  [.int8, .uint8, .int32, .uint32, .int64, .uint64, .float16, .float32, .float64,
    .bfloat16]

/-- The code of an element type at the interface of external schedulers. -/
def code : Element → Int32
  | .int8 => 0
  | .uint8 => 1
  | .int32 => 2
  | .uint32 => 3
  | .int64 => 4
  | .uint64 => 5
  | .float16 => 6
  | .float32 => 7
  | .float64 => 8
  | .bfloat16 => 9

/-- The size of one element in bytes. -/
def bytes : Element → UInt64
  | .int8 | .uint8 => 1
  | .float16 | .bfloat16 => 2
  | .int32 | .uint32 | .float32 => 4
  | .int64 | .uint64 | .float64 => 8

theorem bytes_pos (element : Element) : 0 < element.bytes.toNat := by
  cases element <;> decide

theorem code_injective {first second : Element} (same : first.code = second.code) :
    first = second := by
  revert same
  cases first <;> cases second <;> decide

end Element

/-- The reductions that combine the elements of several ranks. -/
inductive Reduction where
  | sum
  | prod
  | max
  | min
  | avg
  | preMulSum
  | sumPostDiv
  deriving DecidableEq, Repr, Inhabited

namespace Reduction

/-- Every reduction, in the order of the codes. -/
def all : List Reduction :=
  [.sum, .prod, .max, .min, .avg, .preMulSum, .sumPostDiv]

/-- The code of a reduction at the interface of external schedulers. -/
def code : Reduction → Int32
  | .sum => 0
  | .prod => 1
  | .max => 2
  | .min => 3
  | .avg => 4
  | .preMulSum => 5
  | .sumPostDiv => 6

/-- A reduction that combines elements one by one.  Averages and scaled sums need
work before or after the reduction, so no algorithm runs them. -/
def pointwise : Reduction → Bool
  | .sum | .prod | .max | .min => true
  | .avg | .preMulSum | .sumPostDiv => false

theorem code_injective {first second : Reduction} (same : first.code = second.code) :
    first = second := by
  revert same
  cases first <;> cases second <;> decide

end Reduction

end Collective
