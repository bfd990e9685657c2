import TemplateLint.Value.Json.Token

namespace TemplateLint.Json

/-- An open list with its items in reverse, or an open table with its members and the key whose value comes next. -/
inductive Frame where
  | items (done : List Value)
  | members (done : Table) (key : String)

inductive Awaited where
  | value
  | firstItem
  | firstKey (done : Table)
  | key (done : Table)
  | colon (done : Table) (key : String)
  | after (v : Value)

structure State where
  frames : List Frame
  awaited : Awaited

def opened (frames : List Frame) : Token → Option State
  | .leaf v => some ⟨frames, .after v⟩
  | .mark '[' => some ⟨frames, .firstItem⟩
  | .mark '\x7b' => some ⟨frames, .firstKey []⟩
  | .mark _ => none

def step (s : State) (t : Token) : Option State :=
  match s.awaited, t with
  | .value, t => opened s.frames t
  | .firstItem, .mark ']' => some ⟨s.frames, .after (.list [])⟩
  | .firstItem, t => opened (.items [] :: s.frames) t
  | .firstKey done, .mark '\x7d' => some ⟨s.frames, .after (.table done)⟩
  | .firstKey done, .leaf (.str key) => some ⟨s.frames, .colon done key⟩
  | .key done, .leaf (.str key) => some ⟨s.frames, .colon done key⟩
  | .colon done key, .mark ':' => some ⟨.members done key :: s.frames, .value⟩
  | .after v, .mark c =>
    match s.frames, c with
    | .items done :: frames, ',' => some ⟨.items (v :: done) :: frames, .value⟩
    | .items done :: frames, ']' => some ⟨frames, .after (.list (done.reverse ++ [v]))⟩
    | .members done key :: frames, ',' => some ⟨frames, .key (done.insert key v)⟩
    | .members done key :: frames, '\x7d' => some ⟨frames, .after (.table (done.insert key v))⟩
    | _, _ => none
  | _, _ => none

def finish (s : State) : Option Value :=
  match s.frames, s.awaited with
  | [], .after v => some v
  | _, _ => none

def ofTokens? (ts : List Token) : Option Value := ts.foldlM step ⟨[], .value⟩ >>= finish

def read? (s : String) : Option Value := tokens? s.toList >>= ofTokens?

end TemplateLint.Json
