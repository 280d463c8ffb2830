import SafeTypes.Text.Numeral

/-! Classes and the type parameters that they declare. A class declares parameters in
either of two lists, or by being generic over type variables, or not at all. A list that is
assigned to the finished class replaces the one that being generic has given it. -/
namespace SafeTypes

/-- A member of a parameter list. Type variables of any sort go by their names, and
other values by their texts. -/
inductive Parameter where
  | typeVariable (name : String)
  | text (content : String)
  | number (value : Int)
  deriving DecidableEq

def Parameter.name : Parameter → String
  | .typeVariable name => name
  | .text content => content
  | .number value => String.ofList (Text.integer value)

/-- What a class gives as a list of parameters. Only a tuple declares any. -/
inductive Declaration where
  | tuple (parameters : List Parameter)
  | list (parameters : List Parameter)
  | text (content : String)
  | nothing
  deriving DecidableEq

def Declaration.isEmpty : Declaration → Bool
  | .tuple parameters => parameters.isEmpty
  | .list parameters => parameters.isEmpty
  | .text content => content.isEmpty
  | .nothing => true

def Declaration.names : Declaration → List String
  | .tuple parameters => parameters.map Parameter.name
  | _ => []

/-- What one class of an inheritance chain says itself. -/
structure Class.Body where
  /-- The type variables of a class that is itself declared generic. -/
  genericOver : Option (List String) := none
  /-- The arguments to the class above. A type that is no variable is `none`. -/
  arguments : List (Option String) := []
  typeParameters : Option Declaration := none
  /-- The list of parameters that is assigned to the class once it is finished. -/
  parameters : Option Declaration := none
  deriving DecidableEq

namespace Class.Body

def isGeneric (body : Body) : Bool :=
  body.genericOver.isSome

/-- The list of type parameters is the nearest one given on the chain. -/
def typeParametersOf (chain : List Body) : Option Declaration :=
  chain.findSome? Body.typeParameters

/-- The variables among the arguments, each at its first place. -/
def argumentVariables (body : Body) : List String :=
  (body.arguments.filterMap id).eraseDups

/-- The list of parameters that a class has in the end. An assigned list counts before all else.
A class that is declared generic gets a list of its variables when it is made, and a class below
a generic one gets a list of the variables among its arguments. Any other class has the list of
the class above. -/
def parametersOf : List Body → Option Declaration
  | [] => none
  | body :: above =>
      match body.parameters, body.genericOver with
      | some declaration, _ => some declaration
      | none, some names => some (.tuple (names.map .typeVariable))
      | none, none =>
          if above.any isGeneric then
            some (.tuple (body.argumentVariables.map .typeVariable))
          else parametersOf above

end Class.Body

/-- A class with its inheritance chain. The qualified name is the module and the path
within the module, with a dot between them. -/
structure Class where
  qualifiedName : String
  body : Class.Body := {}
  /-- The bodies of the classes above, the nearest first. -/
  ancestors : List Class.Body := []
  deriving DecidableEq

namespace Class

def inModule (moduleName path : String) (body : Body) (ancestors : List Body) : Class :=
  ⟨moduleName ++ "." ++ path, body, ancestors⟩

def chain (c : Class) : List Body :=
  c.body :: c.ancestors

/-- A list of type parameters counts before the other list, unless it is empty. -/
def declaration (c : Class) : Declaration :=
  match Body.typeParametersOf c.chain with
  | some declaration =>
      if declaration.isEmpty then (Body.parametersOf c.chain).getD (.tuple []) else declaration
  | none => (Body.parametersOf c.chain).getD (.tuple [])

/-- The names of the declared type parameters, in the order of declaration. -/
def declared (c : Class) : List String :=
  c.declaration.names

/-- The requested names that the class does not declare, each at its first place. -/
def undeclared (c : Class) (requested : List String) : List String :=
  requested.eraseDups.filter fun name => !c.declared.contains name

/-- Classes of the standard library whose defining module is not the one that they are
known by. -/
def definingNames : List (String × String) :=
  [("threading.local", "_thread._local"),
   ("concurrent.futures.Executor", "concurrent.futures._base.Executor"),
   ("concurrent.futures.Future", "concurrent.futures._base.Future"),
   ("concurrent.futures.ThreadPoolExecutor", "concurrent.futures.thread.ThreadPoolExecutor"),
   ("concurrent.futures.ProcessPoolExecutor", "concurrent.futures.process.ProcessPoolExecutor"),
   ("queue.SimpleQueue", "_queue.SimpleQueue"),
   ("contextvars.ContextVar", "_contextvars.ContextVar"),
   ("contextvars.Context", "_contextvars.Context")]

/-- A class of the standard library by the name that it is known by. None of them
declares a parameter. -/
def standard (knownName : String) : Class where
  qualifiedName := (definingNames.lookup knownName).getD knownName

end Class

end SafeTypes
