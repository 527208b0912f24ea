import RouteTypes.Generator

/-!
# Sessions

Several generators may be made from one another, each under a name. A step makes a generator, or
writes what one has been compiled to. A step that fails leaves all generators as they are.
-/

namespace RouteTypes

/-- Generators by name. -/
abbrev Session := List (String × Generator)

/-- What is done with the generators of a session. -/
inductive Step where
  | create (name : String) (document : Value) (location : Option String)
  | narrow (name source : String) (filter : Option RouteFilter)
  | compile (name source : String) (compiler : Compiler)
  | write (source : String) (target : Target)
  | writeSchema (source : String) (target : Target) (indent : Option Int)

/-- Why a step was not possible. -/
inductive StepFault where
  | unknown (name : String)
  | uncompiled (name : String)
  | failed (failure : Failure)

/-- A computation of a session. -/
abbrev Stepping := ExceptT StepFault (StateM World)

namespace Session

/-- A run as a part of a step. -/
def ofRun (run : Run α) : Stepping α :=
  ExceptT.adapt .failed run

/-- The generator of a name. -/
def find (session : Session) (name : String) : Stepping Generator :=
  match session.lookup name with
  | some generator => pure generator
  | none => throw (.unknown name)

/-- What the generator of a name has been compiled to. -/
def findCompiled (session : Session) (name : String) : Stepping Compiled := do
  match (← find session name).compiled with
  | some compiled => pure compiled
  | none => throw (.uncompiled name)

/-- The session after a step. -/
def step (session : Session) : Step → Stepping Session
  | .create name document location => do
    return (name, ← ofRun (Generator.create document location)) :: session
  | .narrow name source filter => do
    return (name, (← find session source).narrow filter) :: session
  | .compile name source compiler => do
    return (name, ← ofRun ((← find session source).compile compiler)) :: session
  | .write source target => do
    ofRun ((← findCompiled session source).write target)
    return session
  | .writeSchema source target indent => do
    ofRun ((← findCompiled session source).writeSchema target indent)
    return session

/-- The session and the world after several steps, some of which may fail. -/
def steps (session : Session) (world : World) : List Step → Session × World
  | [] => (session, world)
  | first :: rest =>
    match (session.step first).run.run world with
    | (.ok session, world) => steps session world rest
    | (.error _, world) => steps session world rest

end Session

end RouteTypes
