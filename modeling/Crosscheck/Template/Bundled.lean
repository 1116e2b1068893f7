import Crosscheck.Template.Basic

/-!
# Crosscheck.Template.Bundled

**The bundled templates.** There is one for every class of operations. All of them have the same
frame: parameters are the input buffers, the output buffer and the element count; each thread
computes its element index, leaves if it is out of range, scales the index to an address offset, and
loads, computes and stores one element.
-/

namespace Crosscheck.Template

/-- A text of whole lines. -/
def textOfLines (lines : List String) : String := String.join (lines.map (· ++ "\n"))

/-- What every kernel begins with. -/
def headerLines : List String :=
  [".version 7.8",
   ".target sm_80",
   ".address_size 64",
   ""]

/-- The element index of the thread, and the way out if it is beyond the last element. -/
def indexLines : List String :=
  ["",
   "    mov.u32         %r_ctaid, %ctaid.x;",
   "    mov.u32         %r_ntid, %ntid.x;",
   "    mov.u32         %r_tid, %tid.x;",
   "    mad.lo.u32      %r_i, %r_ctaid, %r_ntid, %r_tid;",
   "    setp.ge.u32     %p, %r_i, %r_n;",
   "    @%p bra         done;",
   ""]

/-- What every kernel ends with. -/
def closingLines : List String :=
  ["",
   "done:",
   "    ret;",
   "\x7d"]

/-- Two operands of the value type. -/
def arithBundled : Template where
  id := "arith"
  entry := "arith"
  shape := .binary
  text := textOfLines <| headerLines ++
    [".visible .entry arith(",
     "    .param .u64 input_a,",
     "    .param .u64 input_b,",
     "    .param .u64 output,",
     "    .param .u32 n",
     ")",
     "\x7b",
     "    .reg .pred      %p;",
     "    .reg .u32       %r_i, %r_n, %r_ctaid, %r_ntid, %r_tid;",
     "    .reg .u64       %rd_off, %rd_a, %rd_b, %rd_out;",
     "    .reg .<BTYPE>   %a, %b, %d;",
     "",
     "    ld.param.u64    %rd_a, [input_a];",
     "    ld.param.u64    %rd_b, [input_b];",
     "    ld.param.u64    %rd_out, [output];",
     "    ld.param.u32    %r_n, [n];",
     "    cvta.to.global.u64  %rd_a, %rd_a;",
     "    cvta.to.global.u64  %rd_b, %rd_b;",
     "    cvta.to.global.u64  %rd_out, %rd_out;"]
    ++ indexLines ++
    ["    mul.wide.u32    %rd_off, %r_i, <TYPE_SIZE>;",
     "    add.u64         %rd_a, %rd_a, %rd_off;",
     "    add.u64         %rd_b, %rd_b, %rd_off;",
     "    add.u64         %rd_out, %rd_out, %rd_off;",
     "",
     "    ld.global.<BTYPE>   %a, [%rd_a];",
     "    ld.global.<BTYPE>   %b, [%rd_b];",
     "    <OP>            %d, %a, %b;",
     "    st.global.<BTYPE>   [%rd_out], %d;"]
    ++ closingLines

/-- One operand of the value type. -/
def unaryBundled : Template where
  id := "unary"
  entry := "unary"
  shape := .unary
  text := textOfLines <| headerLines ++
    [".visible .entry unary(",
     "    .param .u64 input_a,",
     "    .param .u64 output,",
     "    .param .u32 n",
     ")",
     "\x7b",
     "    .reg .pred      %p;",
     "    .reg .u32       %r_i, %r_n, %r_ctaid, %r_ntid, %r_tid;",
     "    .reg .u64       %rd_off, %rd_a, %rd_out;",
     "    .reg .<BTYPE>   %a, %d;",
     "",
     "    ld.param.u64    %rd_a, [input_a];",
     "    ld.param.u64    %rd_out, [output];",
     "    ld.param.u32    %r_n, [n];",
     "    cvta.to.global.u64  %rd_a, %rd_a;",
     "    cvta.to.global.u64  %rd_out, %rd_out;"]
    ++ indexLines ++
    ["    mul.wide.u32    %rd_off, %r_i, <TYPE_SIZE>;",
     "    add.u64         %rd_a, %rd_a, %rd_off;",
     "    add.u64         %rd_out, %rd_out, %rd_off;",
     "",
     "    ld.global.<BTYPE>   %a, [%rd_a];",
     "    <OP>            %d, %a;",
     "    st.global.<BTYPE>   [%rd_out], %d;"]
    ++ closingLines

/-- Three operands of the value type. -/
def ternaryBundled : Template where
  id := "ternary"
  entry := "ternary"
  shape := .ternary
  text := textOfLines <| headerLines ++
    [".visible .entry ternary(",
     "    .param .u64 input_a,",
     "    .param .u64 input_b,",
     "    .param .u64 input_c,",
     "    .param .u64 output,",
     "    .param .u32 n",
     ")",
     "\x7b",
     "    .reg .pred      %p;",
     "    .reg .u32       %r_i, %r_n, %r_ctaid, %r_ntid, %r_tid;",
     "    .reg .u64       %rd_off, %rd_a, %rd_b, %rd_c, %rd_out;",
     "    .reg .<BTYPE>   %a, %b, %c, %d;",
     "",
     "    ld.param.u64    %rd_a, [input_a];",
     "    ld.param.u64    %rd_b, [input_b];",
     "    ld.param.u64    %rd_c, [input_c];",
     "    ld.param.u64    %rd_out, [output];",
     "    ld.param.u32    %r_n, [n];",
     "    cvta.to.global.u64  %rd_a, %rd_a;",
     "    cvta.to.global.u64  %rd_b, %rd_b;",
     "    cvta.to.global.u64  %rd_c, %rd_c;",
     "    cvta.to.global.u64  %rd_out, %rd_out;"]
    ++ indexLines ++
    ["    mul.wide.u32    %rd_off, %r_i, <TYPE_SIZE>;",
     "    add.u64         %rd_a, %rd_a, %rd_off;",
     "    add.u64         %rd_b, %rd_b, %rd_off;",
     "    add.u64         %rd_c, %rd_c, %rd_off;",
     "    add.u64         %rd_out, %rd_out, %rd_off;",
     "",
     "    ld.global.<BTYPE>   %a, [%rd_a];",
     "    ld.global.<BTYPE>   %b, [%rd_b];",
     "    ld.global.<BTYPE>   %c, [%rd_c];",
     "    <OP>            %d, %a, %b, %c;",
     "    st.global.<BTYPE>   [%rd_out], %d;"]
    ++ closingLines

/-- A value and a shift amount, whose buffer has its own element type and stride. -/
def shiftBundled : Template where
  id := "shift"
  entry := "shift"
  shape := .shift
  text := textOfLines <| headerLines ++
    [".visible .entry shift(",
     "    .param .u64 input_a,",
     "    .param .u64 input_b,",
     "    .param .u64 output,",
     "    .param .u32 n",
     ")",
     "\x7b",
     "    .reg .pred              %p;",
     "    .reg .u32               %r_i, %r_n, %r_ctaid, %r_ntid, %r_tid;",
     "    .reg .u64               %rd_off, %rd_a, %rd_b, %rd_out;",
     "    .reg .<BTYPE>           %a, %d;",
     "    .reg .<SHIFT_BTYPE>     %b;",
     "",
     "    ld.param.u64    %rd_a, [input_a];",
     "    ld.param.u64    %rd_b, [input_b];",
     "    ld.param.u64    %rd_out, [output];",
     "    ld.param.u32    %r_n, [n];",
     "    cvta.to.global.u64  %rd_a, %rd_a;",
     "    cvta.to.global.u64  %rd_b, %rd_b;",
     "    cvta.to.global.u64  %rd_out, %rd_out;"]
    ++ indexLines ++
    ["    mul.wide.u32    %rd_off, %r_i, <TYPE_SIZE>;",
     "    add.u64         %rd_a, %rd_a, %rd_off;",
     "    add.u64         %rd_out, %rd_out, %rd_off;",
     "    mul.wide.u32    %rd_off, %r_i, <SHIFT_TYPE_SIZE>;",
     "    add.u64         %rd_b, %rd_b, %rd_off;",
     "",
     "    ld.global.<BTYPE>           %a, [%rd_a];",
     "    ld.global.<SHIFT_BTYPE>     %b, [%rd_b];",
     "    <OP>            %d, %a, %b;",
     "    st.global.<BTYPE>           [%rd_out], %d;"]
    ++ closingLines

/-- A value; the field is an immediate. -/
def bfeBundled : Template where
  id := "bfe"
  entry := "bfe"
  shape := .bitFieldExtract
  text := textOfLines <| headerLines ++
    [".visible .entry bfe(",
     "    .param .u64 input_a,",
     "    .param .u64 output,",
     "    .param .u32 n",
     ")",
     "\x7b",
     "    .reg .pred      %p;",
     "    .reg .u32       %r_i, %r_n, %r_ctaid, %r_ntid, %r_tid;",
     "    .reg .u64       %rd_off, %rd_a, %rd_out;",
     "    .reg .<BTYPE>   %a, %d;",
     "",
     "    ld.param.u64    %rd_a, [input_a];",
     "    ld.param.u64    %rd_out, [output];",
     "    ld.param.u32    %r_n, [n];",
     "    cvta.to.global.u64  %rd_a, %rd_a;",
     "    cvta.to.global.u64  %rd_out, %rd_out;"]
    ++ indexLines ++
    ["    mul.wide.u32    %rd_off, %r_i, <TYPE_SIZE>;",
     "    add.u64         %rd_a, %rd_a, %rd_off;",
     "    add.u64         %rd_out, %rd_out, %rd_off;",
     "",
     "    ld.global.<BTYPE>   %a, [%rd_a];",
     "    <OP>            %d, %a, <POS>, <LEN>;",
     "    st.global.<BTYPE>   [%rd_out], %d;"]
    ++ closingLines

/-- A field value and a base; the field is an immediate. -/
def bfiBundled : Template where
  id := "bfi"
  entry := "bfi"
  shape := .bitFieldInsert
  text := textOfLines <| headerLines ++
    ["// input_a holds the field to insert, input_b the base value.",
     ".visible .entry bfi(",
     "    .param .u64 input_a,",
     "    .param .u64 input_b,",
     "    .param .u64 output,",
     "    .param .u32 n",
     ")",
     "\x7b",
     "    .reg .pred      %p;",
     "    .reg .u32       %r_i, %r_n, %r_ctaid, %r_ntid, %r_tid;",
     "    .reg .u64       %rd_off, %rd_a, %rd_b, %rd_out;",
     "    .reg .<BTYPE>   %a, %b, %d;",
     "",
     "    ld.param.u64    %rd_a, [input_a];",
     "    ld.param.u64    %rd_b, [input_b];",
     "    ld.param.u64    %rd_out, [output];",
     "    ld.param.u32    %r_n, [n];",
     "    cvta.to.global.u64  %rd_a, %rd_a;",
     "    cvta.to.global.u64  %rd_b, %rd_b;",
     "    cvta.to.global.u64  %rd_out, %rd_out;"]
    ++ indexLines ++
    ["    mul.wide.u32    %rd_off, %r_i, <TYPE_SIZE>;",
     "    add.u64         %rd_a, %rd_a, %rd_off;",
     "    add.u64         %rd_b, %rd_b, %rd_off;",
     "    add.u64         %rd_out, %rd_out, %rd_off;",
     "",
     "    ld.global.<BTYPE>   %a, [%rd_a];",
     "    ld.global.<BTYPE>   %b, [%rd_b];",
     "    <OP>            %d, %a, %b, <POS>, <LEN>;",
     "    st.global.<BTYPE>   [%rd_out], %d;"]
    ++ closingLines

/-- The bundled templates, in the order in which runs take them. -/
def bundled : List Template :=
  [arithBundled, unaryBundled, ternaryBundled, shiftBundled, bfeBundled, bfiBundled]

end Crosscheck.Template
