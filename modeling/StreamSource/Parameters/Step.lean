import StreamSource.Parameters.Basic
import StreamSource.Registers

/-! Runs over registers of parameter collections. A step works on one register, which
springs up empty when it is named so; a second register that was never written
acts as empty. -/

namespace StreamSource.Parameters

inductive Step
  | set (name : String) (v : ParameterValue)
  | get (name : String)
  | value (name : String)
  | text (name default : String)
  | integer (name : String) (default : Int64)
  | boolean (name : String) (default : Bool)
  | contains (name : String)
  | remove (name : String)
  | require (names : List String)
  | size
  | clear
  | lines
  | json
  | find (v : ParameterValue)
  | replace (pairs : List (String × ParameterValue))
  | merge (source : String) (overwrite : Bool)
  | copy (target : String)
  | equals (other : String)

inductive Answer
  | done
  | succeeded
  | parameter? (p : Option Parameter)
  | value? (v : Option ParameterValue)
  | text (s : String)
  | integer (n : Int64)
  | boolean (b : Bool)
  | size (n : Nat) (isEmpty : Bool)
  | lines (ls : List String)
  | found? (x : Option (Nat × Parameter))
  | parameters (ps : Parameters)
  | failed (e : Error)

/-- What the collection `ps` answers, and what it becomes. The registers are those
before the step, with `ps` in its own. -/
def Step.apply (r : Registers Parameters) (ps : Parameters) : Step → Answer × Parameters
  | .set name v => (.done, ps.set name v)
  | .get name => (.parameter? (ps.get? name), ps)
  | .value name => (.value? (ps.value? name), ps)
  | .text name default => (.text (ps.textD name default), ps)
  | .integer name default => (.integer (ps.integerD name default), ps)
  | .boolean name default => (.boolean (ps.booleanD name default), ps)
  | .contains name => (.boolean (ps.contains name), ps)
  | .remove name => (.boolean (ps.contains name), ps.erase name)
  | .require names =>
    match ps.require names with
    | .ok _ => (.succeeded, ps)
    | .error e => (.failed e, ps)
  | .size => (.size ps.size ps.items.isEmpty, ps)
  | .clear => (.done, empty)
  | .lines => (.lines ps.lines, ps)
  | .json => (.text ps.toJson.compact, ps)
  | .find v => (.found? (ps.findValue? v), ps)
  | .replace pairs => (.done, ofPairs pairs)
  | .merge source overwrite => (.done, ps.merge (r.getD source empty) overwrite)
  | .copy _ => (.parameters ps, ps)
  | .equals other => (.boolean (ps = r.getD other empty), ps)

/-- One step on the register `on`. -/
def Step.run (on : String) (r : Registers Parameters) (s : Step) : Answer × Registers Parameters :=
  let ps := r.getD on empty
  let r := r.put on ps
  let (a, ps) := s.apply r ps
  let r := r.put on ps
  match s with
  | .copy target => (a, r.put target ps)
  | _ => (a, r)

/-- The answers of a run, each with what its register holds after the step. -/
def run (r : Registers Parameters) : List (String × Step) → List (Answer × Parameters)
  | [] => []
  | (on, s) :: steps =>
    let (a, r) := s.run on r
    (a, r.getD on empty) :: run r steps

end StreamSource.Parameters
