/-!
Whole numbers that fit a word of some width.
-/
namespace Courier.Word

/-- How many numbers a word of 16 bits tells apart. -/
def size16 : Nat := 65536

def size32 : Nat := 4294967296

def size64 : Nat := 18446744073709551616

/-- The ends of the signed words of 64 bits. -/
def lowest64 : Int := -9223372036854775808

def highest64 : Int := 9223372036854775807

def isSigned32 (n : Int) : Bool := -2147483648 ≤ n && n ≤ 2147483647

def isSigned64 (n : Int) : Bool := lowest64 ≤ n && n ≤ highest64

end Courier.Word
