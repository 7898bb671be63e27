import SqlBuilder.Statement.Call

/-!
# Methods

The methods of the builder that are calls of one family, each with its own values. The other methods
are constructors of `Call` as they stand. Two methods have a keyword for a name and carry an
underscore here.

A nested statement is built from nothing, and the one who builds it may return a name for it.
-/
namespace SqlBuilder

namespace Method

/-! ### Joins -/

section Joins

variable (target condition : Operand)

def innerJoin : Call := .join .inner target (some condition)

def join : Call := innerJoin target condition

def leftJoin : Call := .join .left target (some condition)

def rightJoin : Call := .join .right target (some condition)

def fullJoin : Call := .join .full target (some condition)

def crossJoin : Call := .join .cross target none

end Joins

/-! ### Conditions on rows -/

section Rows

variable (body : Operand) (bodies : List Operand) (child : Statement)

def where_ : Call := .restrict .rows .replacing false body

def whereAll : Call := .restrictAll .rows bodies

def whereNot : Call := .restrict .rows .replacing true body

def andWhere : Call := .restrict .rows (.joinedBy .and) false body

def andWhereNot : Call := .restrict .rows (.joinedBy .and) true body

def orWhere : Call := .restrict .rows (.joinedBy .or) false body

def orWhereNot : Call := .restrict .rows (.joinedBy .or) true body

def whereExists : Call := .restrictByExistence .replacing false child

def whereNotExists : Call := .restrictByExistence .replacing true child

def andWhereExists : Call := .restrictByExistence (.joinedBy .and) false child

def andWhereNotExists : Call := .restrictByExistence (.joinedBy .and) true child

def orWhereExists : Call := .restrictByExistence (.joinedBy .or) false child

def orWhereNotExists : Call := .restrictByExistence (.joinedBy .or) true child

end Rows

/-! ### Conditions on groups -/

section Groups

variable (body : Operand) (bodies : List Operand)

def having : Call := .restrict .groups .replacing false body

def havingAll : Call := .restrictAll .groups bodies

def havingNot : Call := .restrict .groups .replacing true body

def andHaving : Call := .restrict .groups (.joinedBy .and) false body

def andHavingNot : Call := .restrict .groups (.joinedBy .and) true body

def orHaving : Call := .restrict .groups (.joinedBy .or) false body

def orHavingNot : Call := .restrict .groups (.joinedBy .or) true body

end Groups

/-! ### Orderings -/

section Orderings

variable (column : String) (direction : Direction) (terms : List (String × Direction))

def orderBy : Call := .orderBy [(column, direction)]

def addOrderBy : Call := .addOrderBy [(column, direction)]

def orderByAll : Call := .orderBy terms

def addOrderByAll : Call := .addOrderBy terms

end Orderings

/-! ### Members of a UNION, common table expressions and values -/

def union (member : Statement) : Call := .union false member

def unionAll (member : Statement) : Call := .union true member

section Ctes

variable (name : String) (columns : List String) (body : Statement)

def with_ : Call := .withCte name none false body

def withColumns : Call := .withCte name (some columns) false body

def withRecursive : Call := .withCte name none true body

def withRecursiveColumns : Call := .withCte name (some columns) true body

end Ctes

/-- The values of an UPDATE, under the word it has for them. -/
def set (pairs : List (String × Operand)) : Call := .values pairs

end Method

/-- Names the statement by what was returned when it was built, if that is a name. -/
def Statement.namedBy (s : Statement) : Option String → Statement
  | none => s
  | some name => s.aliasAs name

end SqlBuilder
