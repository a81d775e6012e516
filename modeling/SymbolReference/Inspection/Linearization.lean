namespace SymbolReference

/-- Whether a class is kept back by some order, in which another class has to come before it. -/
def isKeptBack (orders : List (List Nat)) (number : Nat) : Bool :=
  orders.any fun order => order.tail.contains number

def nextInMerge (orders : List (List Nat)) : Option Nat :=
  (orders.filterMap List.head?).find? fun number => !isKeptBack orders number

/-- Take a class away from the front of every order. -/
def withoutHead (number : Nat) (orders : List (List Nat)) : List (List Nat) :=
  (orders.map fun order => if order.head? = some number then order.tail else order).filter
    fun order => !order.isEmpty

/-- Merge several orders into one that keeps them all, by at most `fuel` classes. When the orders
contradict each other, the classes are given that block each other. -/
def mergeOrders : Nat → List (List Nat) → Except (List Nat) (List Nat)
  | 0, _ => .ok []
  | fuel + 1, orders =>
    if orders.isEmpty then .ok []
    else
      match nextInMerge orders with
      | none => .error (orders.filterMap List.head?).eraseDups
      | some number => (mergeOrders fuel (withoutHead number orders)).map (number :: ·)

def linearize (number : Nat) (bases : List Nat) (baseOrders : List (List Nat)) :
    Except (List Nat) (List Nat) :=
  let orders := (baseOrders ++ [bases]).filter fun order => !order.isEmpty
  (mergeOrders (orders.flatten.length + 1) orders).map (number :: ·)

end SymbolReference
