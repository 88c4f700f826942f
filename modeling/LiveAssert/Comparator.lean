namespace LiveAssert

inductive NumericOp
  | eq
  | notEq
  | lt
  | le
  | gt
  | ge
  | approx
deriving DecidableEq

namespace NumericOp

def symbol : NumericOp → String
  | .eq => "=="
  | .notEq => "!="
  | .lt => "<"
  | .le => "<="
  | .gt => ">"
  | .ge => ">="
  | .approx => "~"

def parse? : String → Option NumericOp
  | "=" | "==" => some .eq
  | "!=" => some .notEq
  | "<" => some .lt
  | "<=" => some .le
  | ">" => some .gt
  | ">=" => some .ge
  | "~" => some .approx
  | _ => none

end NumericOp

inductive Comparator
  | equal
  | elementOf
  | consistOf
  | numeric (op : NumericOp)
  | boolIs
  | contains
  | hasPrefix
  | hasSuffix
  | matchesRegex
  | hasLength
deriving DecidableEq

def Comparator.text : Comparator → String
  | .equal => "equal"
  | .elementOf => "be an element of"
  | .consistOf => "consist of"
  | .numeric op => "be " ++ op.symbol
  | .boolIs => "be"
  | .contains => "contain"
  | .hasPrefix => "have prefix"
  | .hasSuffix => "have suffix"
  | .matchesRegex => "match regex"
  | .hasLength => "have length"

end LiveAssert
