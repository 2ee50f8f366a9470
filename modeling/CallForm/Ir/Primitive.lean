-- The names that the engine reading the compiled text gives meaning to.
namespace CallForm.Primitive

/-- Introduces a binding. -/
def define : String := "define"

/-- Changes a binding. -/
def store : String := "store"

/-- Runs statements in order. -/
def block : String := "block"

/-- Chooses between two branches. -/
def ifElse : String := "if"

/-- Repeats while a test holds. -/
def loop : String := "while"

/-- Runs a function over a sequence, one item after another. -/
def map : String := "map"

/-- Runs a function over a sequence, all items at once. -/
def parallelMap : String := "parallel_map"

/-- Makes an anonymous function. -/
def lambda : String := "lambda"

/-- Reads part of a value. -/
def slice : String := "slice"

/-- Writes part of a value. -/
def set : String := "set"

/-- Makes a list. -/
def makeList : String := "make_list"

/-- Writes to the output. -/
def output : String := "cout"

/-- Counts through a range. -/
def range : String := "range"

/-- Nothing, and a bound that is absent. -/
def nil : String := "nil"

/-- The true constant. -/
def true : String := "true"

/-- The false constant. -/
def false : String := "false"

end CallForm.Primitive
