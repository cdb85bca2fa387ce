/-!
# Numbers in words

Terms and credits are kept in words of 32 bits, and the numbers of planned courses in
words of 64.  Of a sum that is too great for its word the last bits are left (`low32`,
`low64`), so one that fits is left as it is.

There are four such sums: the terms of a plan in whole years (`Term.roundUp`), the terms
of a plan with one more year (`Plan.addYear`), the credits of some courses
(`totalCredits`, `Plan.credits`), and the number after one that a planned course came with
(`Plan.push`).  A program may be built so that it stops at a sum that is too great.  Up to
there it does the same.

All other numbers fit.  They are quotients and differences, or they count what is kept in
a list, and no list has as many items as a word of 64 bits can count.
-/

namespace StudyPlan

namespace Word

/-- What is left of a number in 32 bits. -/
def low32 (n : Nat) : Nat := n % UInt32.size

/-- What is left of a number in 64 bits. -/
def low64 (n : Nat) : Nat := n % UInt64.size

theorem low32_of_lt {n : Nat} (h : n < UInt32.size) : low32 n = n := Nat.mod_eq_of_lt h

theorem low64_of_lt {n : Nat} (h : n < UInt64.size) : low64 n = n := Nat.mod_eq_of_lt h

theorem low32_lt (n : Nat) : low32 n < UInt32.size := Nat.mod_lt n (by decide)

end Word

end StudyPlan
