import Rit.NewSrc.Table.Row

/-!
# The ARM rows

The rows of `ubt-stub/cortex-a9.def`, in order, one list per top-level node of its decode
tree.
-/

namespace Rit.Table

/-- The root node: the unconditional space that is not linked further. -/
def armTop : List InstrDesc := [
  link "X0",
  link "X2",
  link "X4",
  link "X8",
  link "XC",
  link "F0",
  link "F2",
  link "F4",
  pinst "SRS" 0xf8400000 0xfe500000 .sysOp dna dna g16,
  pinst "RFE" 0xf8100000 0xfe500000 .sysOp (dgprList 0 15) dna g16,
  pinst "BLX_imm_a2" 0xfa000000 0xfe000000 .jmpOp dna dna (dimmSignExtend 0 23 0),
  pinst "MRRC2" 0xfc500000 0xfff00000 .noOp g12 g16,
  einst "LDC2_imm" 0xfc100000 0xfe100000 0x000f0000 .noOp dna dna g16 imm8,
  pinst "LDC2_lit" 0xfc1f0000 0xfe1f0000 .noOp dna dna imm8,
  pinst "STC2" 0xfc000000 0xfe100000 .noOp dna dna g16 imm8,
  pinst "MCRR2" 0xfc400000 0xfff00000 .noOp dna dna g12 g16,
  pinst "CDP2" 0xfe000000 0xff000010 .noOp,
  pinst "MCR2" 0xfe000010 0xff100010 .noOp dna dna g12,
  pinst "MRC2" 0xfe100010 0xff100010 .noOp g12,
  tail "TOP_END"]

/-- `X0`: data processing (register), multiplies, miscellaneous, extra loads and stores. -/
def armX0 : List InstrDesc := [
  connect "X0",
  link "X0_0",
  link "X0_1",
  link "X0_2",
  link "X0_3",
  link "X0_4",
  link "X0_5",
  tail "X0_END",
  connect "X0_0",
  cinst "MUL" 0x00000090 0x0fe000f0 .mul32Op g16 dna g0 g8,
  cinst "MLA" 0x00200090 0x0fe000f0 .mul32Op g16 dna g0 g8 g12,
  cinst "UMAAL" 0x00400090 0x0ff000f0 .umulOp (dgprRw 16 19) (dgprRw 12 15) g0 g8,
  cinst "MLS" 0x00600090 0x0ff000f0 .mul32Op g16 dna g0 g8 g12,
  cinst "UMULL" 0x00800090 0x0fe000f0 .umulOp g16 g12 g0 g8,
  cinst "UMLAL" 0x00a00090 0x0fe000f0 .umulOp (dgprRw 16 19) (dgprRw 12 15) g0 g8,
  cinst "SMULL" 0x00c00090 0x0fe000f0 .smulOp g16 g12 g0 g8,
  cinst "SMLAL" 0x00e00090 0x0fe000f0 .smulOp (dgprRw 16 19) (dgprRw 12 15) g0 g8,
  tail "X0_0_END",
  connect "X0_1",
  cinst "MRS_a" 0x01000000 0x0ff000f0 .srOp g12,
  cinst "MRS" 0x01000000 0x0fb000f0 .srOp g12,
  cinst "MSR_reg_a" 0x01200000 0x0ff300f0 .srOp dna dna g0 size18,
  cinst "MSR_reg_s" 0x01200000 0x0fb000f0 .srOp dna dna g0 size18,
  cinst "BX" 0x01200010 0x0ff000f0 .jmpOp dna dna g0,
  cinst "CLZ" 0x01600010 0x0ff000f0 .miscOp g12 dna g0,
  cinst "BXJ_reg" 0x01200020 0x0ff000f0 .noOp dna dna g0,
  cinst "BLX_reg" 0x01200030 0x0ff000f0 .jmpOp dna dna g0,
  cinst "BKPT" 0x01200070 0x0ff000f0 .noOp dna dna (dimmMerge 8 19 0 3),
  cinst "SMC" 0x01600070 0x0ff000f0 .sysOp,
  cinst "QADD" 0x01000050 0x0ff000f0 .byteAluOp g12 dna g16 g0,
  cinst "QSUB" 0x01200050 0x0ff000f0 .byteAluOp g12 dna g16 g0,
  cinst "QDADD" 0x01400050 0x0ff000f0 .byteAluOp g12 dna g16 g0,
  cinst "QDSUB" 0x01600050 0x0ff000f0 .byteAluOp g12 dna g16 g0,
  tail "X0_1_END",
  connect "X0_2",
  cinst "SMLABB" 0x01000080 0x0ff00090 .smulOp g16 dna g0 g8 g12,
  cinst "SMLAWB" 0x01200080 0x0ff000b0 .smulOp g16 dna g0 g8 g12,
  cinst "SMULWB" 0x012000a0 0x0ff000b0 .smulOp g16 dna g0 g8,
  cinst "SMLALBB" 0x01400080 0x0ff00090 .smulOp g16 g12 g0 g8,
  cinst "SMULBB" 0x01600080 0x0ff00090 .smulOp g16 dna g0 g8,
  tail "X0_2_END",
  connect "X0_3",
  cinst "SWP" 0x01000090 0x0ff000f0 .miscOp g12 dna g0 g16,
  cinst "SWPB" 0x01400090 0x0ff000f0 .miscOp g12 dna g0 g16,
  cinst "STREX" 0x01800090 0x0ff000f0 .strexOp g12 dna g0 g16,
  cinst "LDREX" 0x01900090 0x0ff000f0 .ldrexOp g12 dna g16,
  cinst "STREXD" 0x01a00090 0x0ff000f0 .strexOp g12 dna g0 g16,
  cinst "LDREXD" 0x01b00090 0x0ff000f0 .ldrexOp g12 dna g16,
  cinst "STREXB" 0x01c00090 0x0ff000f0 .strexOp g12 dna g0 g16,
  cinst "LDREXB" 0x01d00090 0x0ff000f0 .ldrexOp g12 dna g16,
  cinst "STREXH" 0x01e00090 0x0ff000f0 .strexOp g12 dna g0 g16,
  cinst "LDREXH" 0x01f00090 0x0ff000f0 .ldrexOp g12 dna g16,
  tail "X0_3_END",
  connect "X0_4",
  cinst "AND_reg" 0x00000000 0x0fe00010 .logOp g12 dna g16 g0 shift7,
  cinst "EOR_reg" 0x00200000 0x0fe00010 .logOp g12 dna g16 g0 shift7,
  cinst "SUB_reg" 0x00400000 0x0fe00010 .aluOp g12 dna g16 g0 shift7,
  cinst "RSB_reg" 0x00600000 0x0fe00010 .aluOp g12 dna g16 g0 shift7,
  cinst "ADD_reg" 0x00800000 0x0fe00010 .aluOp g12 dna g16 g0 shift7,
  cinst "ADC_reg" 0x00a00000 0x0fe00010 .aluOp g12 dna g16 g0 shift7,
  cinst "SBC_reg" 0x00c00000 0x0fe00010 .aluOp g12 dna g16 g0 shift7,
  cinst "RSC_reg" 0x00e00000 0x0fe00010 .aluOp g12 dna g16 g0 shift7,
  cinst "TST_reg" 0x01100000 0x0ff00010 .testOp dna dna g16 g0 shift7,
  cinst "TEQ_reg" 0x01300000 0x0ff00010 .testOp dna dna g16 g0 shift7,
  cinst "CMP_reg" 0x01500000 0x0ff00010 .cmpOp dna dna g16 g0 shift7,
  cinst "CMN_reg" 0x01700000 0x0ff00010 .cmpOp dna dna g16 g0 shift7,
  cinst "ORR_reg" 0x01800000 0x0fe00010 .logOp g12 dna g16 g0 shift7,
  cinst "MOV_reg" 0x01a00000 0x0fe00ff0 .movOp g12 dna g0,
  cinst "LSL_imm" 0x01a00000 0x0fe00070 .movOp g12 dna g0 shift7,
  cinst "LSR_imm" 0x01a00020 0x0fe00070 .movOp g12 dna g0 shift7,
  cinst "ASR_imm" 0x01a00040 0x0fe00070 .movOp g12 dna g0 shift7,
  cinst "RRX_imm" 0x01a00060 0x0fe00ff0 .movOp g12 dna g0 shift7,
  cinst "ROR_imm" 0x01a00060 0x0fe00070 .movOp g12 dna g0 shift7,
  cinst "BIC_reg" 0x01c00000 0x0fe00010 .logOp g12 dna g16 g0 shift7,
  cinst "MVN_reg" 0x01e00000 0x0fe00010 .movOp g12 dna g0 shift7,
  tail "X0_4_END",
  connect "X0_5",
  link "X0_5_0",
  link "X0_5_1",
  tail "X0_5_END",
  connect "X0_5_0",
  cinst "AND_rsh" 0x00000010 0x0fe00090 .logOp g12 dna g16 g0 (dshftgpr 8 11 5 6),
  cinst "EOR_rsh" 0x00200010 0x0fe00090 .logOp g12 dna g16 g0 (dshftgpr 8 11 5 6),
  cinst "SUB_rsh" 0x00400010 0x0fe00090 .aluOp g12 dna g16 g0 (dshftgpr 8 11 5 6),
  cinst "RSB_rsh" 0x00600010 0x0fe00090 .aluOp g12 dna g16 g0 (dshftgpr 8 11 5 6),
  cinst "ADD_rsh" 0x00800010 0x0fe00090 .aluOp g12 dna g16 g0 (dshftgpr 8 11 5 6),
  cinst "ADC_rsh" 0x00a00010 0x0fe00090 .aluOp g12 dna g16 g0 (dshftgpr 8 11 5 6),
  cinst "SBC_rsh" 0x00c00010 0x0fe00090 .aluOp g12 dna g16 g0 (dshftgpr 8 11 5 6),
  cinst "RSC_rsh" 0x00e00010 0x0fe00090 .aluOp g12 dna g16 g0 (dshftgpr 8 11 5 6),
  cinst "TST_rsh" 0x01100010 0x0ff00090 .testOp dna dna g16 g0 (dshftgpr 8 11 5 6),
  cinst "TEQ_rsh" 0x01300010 0x0ff00090 .testOp dna dna g16 g0 (dshftgpr 8 11 5 6),
  cinst "CMP_rsh" 0x01500010 0x0ff00090 .cmpOp dna dna g16 g0 (dshftgpr 8 11 5 6),
  cinst "CMN_rsh" 0x01700010 0x0ff00090 .cmpOp dna dna g16 g0 (dshftgpr 8 11 5 6),
  cinst "ORR_rsh" 0x01800010 0x0fe00090 .logOp g12 dna g16 g0 (dshftgpr 8 11 5 6),
  cinst "LSL_reg" 0x01a00010 0x0fe000f0 .movOp g12 dna g0 (dshftgpr 8 11 5 6),
  cinst "LSR_reg" 0x01a00030 0x0fe000f0 .movOp g12 dna g0 (dshftgpr 8 11 5 6),
  cinst "ASR_reg" 0x01a00050 0x0fe000f0 .movOp g12 dna g0 (dshftgpr 8 11 5 6),
  cinst "ROR_reg" 0x01a00070 0x0fe000f0 .movOp g12 dna g0 (dshftgpr 8 11 5 6),
  cinst "BIC_rsh" 0x01c00010 0x0fe00090 .logOp g12 dna g16 g0 (dshftgpr 8 11 5 6),
  cinst "MVN_rsh" 0x01e00010 0x0fe00090 .movOp g12 dna g0 (dshftgpr 8 11 5 6),
  tail "X0_5_0_END",
  connect "X0_5_1",
  inst "STRH_reg" 0x000000b0 0x0e5000f0 0x00200000 0x01200000 .stOp
    dna dna g12 g16 g0 (dshftimm 26 27 26 27),
  cinst "LDRH" 0x001000b0 0x0e5000f0 .ldOp g12 dna g16 g0 (dshftimm 25 26 25 26),
  cinst "STRH_imm" 0x004000b0 0x0e5000f0 .stOp dna dna g12 g16 (dimmMerge 8 11 0 3),
  einst "LDRH_imm" 0x005000b0 0x0e5000f0 0x000f0000 .ldOp g12 dna g16 (dimmMerge 8 11 0 3),
  cinst "LDRH_lit" 0x005f00b0 0x0e5f00f0 .ldOp g12 dna g16 (dimmMerge 8 11 0 3),
  cinst "LDRD_reg" 0x000000d0 0x0e5000f0 .ldOp g12 dna g16 g0,
  inst "LDRSB" 0x001000d0 0x0e5000f0 0x00200000 0x01200000 .ldOp
    g12 dna g16 g0 (dshftimm 26 27 26 27),
  einst "LDRD_imm" 0x004000d0 0x0e5000f0 0x000f0000 .ldOp g12 dna g16 (dimmMerge 8 11 0 3),
  cinst "LDRD_lit" 0x004f00d0 0x0e5f00f0 .ldOp g12 dna g16 (dimmMerge 8 11 0 3),
  einst "LDRSB_imm" 0x005000d0 0x0e5000f0 0x000f0000 .ldOp g12 dna g16 (dimmMerge 8 11 0 3),
  cinst "LDRSB_lit" 0x005f00d0 0x0e5f00f0 .ldOp g12 dna g16 (dimmMerge 8 11 0 3),
  cinst "STRD_reg" 0x000000f0 0x0e5000f0 .stOp dna dna g12 g16 g0,
  cinst "LDRSH" 0x001000f0 0x0e5000f0 .ldOp g12 dna g16 g0 (dshftimm 26 27 26 27),
  cinst "STRD_imm" 0x004000f0 0x0e5000f0 .stOp dna dna g12 g16 (dimmMerge 8 11 0 3),
  einst "LDRSH_imm" 0x005000f0 0x0e5000f0 0x000f0000 .ldOp g12 dna g16 (dimmMerge 8 11 0 3),
  cinst "LDRSH_lit" 0x005f00f0 0x0e5f00f0 .ldOp g12 dna g16 (dimmMerge 8 11 0 3),
  cinst "STRHT_a1" 0x006000b0 0x0f7000f0 .stOp dna dna g12 g16 (dimmMerge 8 11 0 3),
  cinst "STRHT_a2" 0x002000b0 0x0f7000f0 .stOp dna dna g12 g16 g0,
  cinst "LDRHT_a1" 0x007000b0 0x0f7000f0 .ldOp g12 dna g16 (dimmMerge 8 11 0 3),
  cinst "LDRHT_a2" 0x003000b0 0x0f7000f0 .ldOp g12 dna g16 g0,
  cinst "LDRSBT_a1" 0x007000d0 0x0f7000f0 .ldOp g12 dna g16 (dimmMerge 8 11 0 3),
  cinst "LDRSBT_a2" 0x003000d0 0x0f7000f0 .ldOp g12 dna g16 g0,
  cinst "LDRSHT_a1" 0x007000f0 0x0f7000f0 .ldOp g12 dna g16 (dimmMerge 8 11 0 3),
  cinst "LDRSHT_a2" 0x003000f0 0x0f7000f0 .ldOp g12 dna g16 g0,
  tail "X0_5_1_END"]

/-- `X2`: data processing (immediate) and hints. -/
def armX2 : List InstrDesc := [
  connect "X2",
  cinst "AND_imm" 0x02000000 0x0fe00000 .logOp g12 dna g16 (dimmArmexp 0 11 8),
  cinst "EOR_imm" 0x02200000 0x0fe00000 .logOp g12 dna g16 (dimmArmexp 0 11 8),
  inst "SUB_imm" 0x02400000 0x0fe00000 0x000f0000 0x001f0000 .aluOp g12 dna g16 (dimmArmexp 0 11 8),
  cinst "ADR_a2" 0x024f0000 0x0fff0000 .miscOp g12 dna g16 (dimmArmexp 0 11 8),
  cinst "RSB_imm" 0x02600000 0x0fe00000 .aluOp g12 dna g16 (dimmArmexp 0 11 8),
  inst "ADD_imm" 0x02800000 0x0fe00000 0x000f0000 0x001f0000 .aluOp g12 dna g16 (dimmArmexp 0 11 8),
  cinst "ADR_a1" 0x028f0000 0x0fff0000 .miscOp g12 dna g16 (dimmArmexp 0 11 8),
  cinst "ADC_imm" 0x02a00000 0x0fe00000 .aluOp g12 dna g16 (dimmArmexp 0 11 8),
  cinst "SBC_imm" 0x02c00000 0x0fe00000 .aluOp g12 dna g16 (dimmArmexp 0 11 8),
  cinst "RSC_imm" 0x02e00000 0x0fe00000 .aluOp g12 dna g16 (dimmArmexp 0 11 8),
  cinst "TST_imm" 0x03100000 0x0ff00000 .testOp dna dna g16 (dimmArmexp 0 11 8),
  cinst "TEQ_imm" 0x03300000 0x0ff00000 .testOp dna dna g16 (dimmArmexp 0 11 8),
  cinst "CMP_imm" 0x03500000 0x0ff00000 .cmpOp dna dna g16 (dimmArmexp 0 11 8),
  cinst "CMN_imm" 0x03700000 0x0ff00000 .cmpOp dna dna g16 (dimmArmexp 0 11 8),
  cinst "ORR_imm" 0x03800000 0x0fe00000 .logOp g12 dna g16 (dimmArmexp 0 11 8),
  cinst "MOV_imm_a1" 0x03a00000 0x0fe00000 .movOp g12 dna (dimmArmexp 0 11 8),
  cinst "MOV_imm_a2" 0x03000000 0x0ff00000 .movOp g12 dna (dimmMerge 16 19 0 11),
  cinst "BIC_imm" 0x03c00000 0x0fe00000 .logOp g12 dna g16 (dimmArmexp 0 11 8),
  cinst "MVN_imm" 0x03e00000 0x0fe00000 .movOp g12 dna (dimmArmexp 0 11 8),
  cinst "NOP" 0x0320f000 0x0fffffff .emptyOp,
  cinst "YIELD" 0x0320f001 0x0fffffff .emptyOp,
  cinst "WFE" 0x0320f002 0x0fffffff .emptyOp,
  cinst "WFI" 0x0320f003 0x0fffffff .emptyOp,
  cinst "SEV" 0x0320f004 0x0fffffff .emptyOp,
  cinst "DBG" 0x0320f0f0 0x0ffffff0 .emptyOp,
  inst "MSR_imm_a" 0x03200000 0x0ff30000 0x00000000 0x000f0000 .srOp
    dna dna (dimmArmexp 0 11 8) size18,
  cinst "MSR_imm_s" 0x03200000 0x0fb00000 .noOp,
  cinst "MOVT" 0x03400000 0x0ff00000 .miscOp g12 dna (dimmMerge 16 19 0 11),
  tail "X2_END"]

/-- `X4`: loads and stores of words and bytes, media instructions. -/
def armX4 : List InstrDesc := [
  connect "X4",
  link "X4_0",
  link "X4_21",
  link "X4_201",
  link "X4_241",
  link "X4_281",
  link "X4_301",
  cinst "USAD8" 0x0780f010 0x0ff0f0f0 .byteAluOp g16 dna g0 g8,
  einst "USADA8" 0x07800010 0x0ff000f0 0x0000f000 .byteAluOp g16 dna g0 g8 g12,
  cinst "SBFX" 0x07a00050 0x0fe00070 .bfOp g12 dna g0 (dimm 7 11) (dimm 16 20),
  cinst "BFC" 0x07c0001f 0x0fe0007f .bfOp g12 dna (dimm 16 20) (dimm 7 11),
  einst "BFI" 0x07c00010 0x0fe00070 0x0000000f .bfOp g12 dna (dimm 16 20) (dimm 7 11) g0,
  cinst "UBFX" 0x07e00050 0x0fe00070 .bfOp g12 dna g0 (dimm 7 11) (dimm 16 20),
  tail "X4_END",
  connect "X4_0",
  cinst "POP_a2" 0x049d0004 0x0fff0fff .popOp (dgprSet 12 15) dna g16 imm12,
  cinst "PUSH_a2" 0x052d0004 0x0fff0fff .pushOp dna dna g12 g16 imm12,
  inst "STR_imm" 0x04000000 0x0e500000 0x00200000 0x01700000 .stOp dna dna g12 g16 imm12,
  cinst "STRT_a1" 0x04200000 0x0f700000 .stOp dna dna g12 g16 imm12,
  inst "LDR_lit" 0x041f0000 0x0e5f0000 0x00300000 0x01700000 .ldOp g12 dna g16 imm12,
  inst "LDR_imm" 0x04100000 0x0e500000 0x00300000 0x01700000 .ldOp g12 dna g16 imm12,
  cinst "LDRT_a1" 0x04300000 0x0f700000 .ldOp g12 dna g16 imm12,
  inst "STRB_imm" 0x04400000 0x0e500000 0x00600000 0x01700000 .stOp dna dna g12 g16 imm12,
  cinst "STRBT_a1" 0x04600000 0x0f700000 .stOp dna dna g12 g16 imm12,
  inst "LDRB_lit" 0x045f0000 0x0e5f0000 0x00700000 0x01700000 .ldOp g12 dna g16 imm12,
  inst "LDRB_imm" 0x04500000 0x0e500000 0x00700000 0x01700000 .ldOp g12 dna g16 imm12,
  cinst "LDRBT_a1" 0x04700000 0x0f700000 .ldOp g12 dna g16 imm12,
  tail "X4_0_END",
  connect "X4_21",
  inst "STR_reg" 0x06000000 0x0e500010 0x00200000 0x01700000 .stOp dna dna g12 g16 g0 shift7,
  cinst "STRT_a2" 0x06200000 0x0f700010 .stOp dna dna g12 g16 g0 shift7,
  inst "LDR_reg" 0x06100000 0x0e500010 0x00300000 0x01700000 .ldOp g12 dna g16 g0 shift7,
  cinst "LDRT_a2" 0x06300000 0x0f700010 .ldOp g12 dna g16 g0 shift7,
  inst "STRB_reg" 0x06400000 0x0e500010 0x00600000 0x01700000 .stOp dna dna g12 g16 g0 shift7,
  cinst "STRBT_a2" 0x06600000 0x0f700010 .stOp dna dna g12 g16 g0 shift7,
  inst "LDRB_reg" 0x06500000 0x0e500010 0x00700000 0x01700000 .ldOp g12 dna g16 g0 shift7,
  cinst "LDRBT_a2" 0x06700000 0x0f700010 .ldOp g12 dna g16 g0 shift7,
  tail "X4_21_END",
  connect "X4_201",
  link "X4_201_1",
  link "X4_201_2",
  cinst "SHADD16" 0x06300010 0x0ff000f0 .sByteAluOp g12 dna g16 g0,
  cinst "SHASX" 0x06300030 0x0ff000f0 .sByteAluOp g12 dna g16 g0,
  cinst "SHSAX" 0x06300050 0x0ff000f0 .sByteAluOp g12 dna g16 g0,
  cinst "SHSUB16" 0x06300070 0x0ff000f0 .sByteAluOp g12 dna g16 g0,
  cinst "SHADD8" 0x06300090 0x0ff000f0 .sByteAluOp g12 dna g16 g0,
  cinst "SHSUB8" 0x063000f0 0x0ff000f0 .sByteAluOp g12 dna g16 g0,
  tail "X4_201_END",
  connect "X4_201_1",
  cinst "SADD16" 0x06100010 0x0ff000f0 .sByteAluOp g12 dna g16 g0,
  cinst "SASX" 0x06100030 0x0ff000f0 .sByteAluOp g12 dna g16 g0,
  cinst "SSAX" 0x06100050 0x0ff000f0 .sByteAluOp g12 dna g16 g0,
  cinst "SSUB16" 0x06100070 0x0ff000f0 .sByteAluOp g12 dna g16 g0,
  cinst "SADD8" 0x06100090 0x0ff000f0 .sByteAluOp g12 dna g16 g0,
  cinst "SSUB8" 0x061000f0 0x0ff000f0 .sByteAluOp g12 dna g16 g0,
  tail "X4_201_1_END",
  connect "X4_201_2",
  cinst "QADD16" 0x06200010 0x0ff000f0 .byteAluOp g12 dna g16 g0,
  cinst "QASX" 0x06200030 0x0ff000f0 .byteAluOp g12 dna g16 g0,
  cinst "QSAX" 0x06200050 0x0ff000f0 .byteAluOp g12 dna g16 g0,
  cinst "QSUB16" 0x06200070 0x0ff000f0 .byteAluOp g12 dna g16 g0,
  cinst "QADD8" 0x06200090 0x0ff000f0 .byteAluOp g12 dna g16 g0,
  cinst "QSUB8" 0x062000f0 0x0ff000f0 .byteAluOp g12 dna g16 g0,
  tail "X4_201_2_END",
  connect "X4_241",
  link "X4_241_1",
  link "X4_241_2",
  cinst "UHADD16" 0x06700010 0x0ff000f0 .byteAluOp g12 dna g16 g0,
  cinst "UHASX" 0x06700030 0x0ff000f0 .byteAluOp g12 dna g16 g0,
  cinst "UHSAX" 0x06700050 0x0ff000f0 .byteAluOp g12 dna g16 g0,
  cinst "UHSUB16" 0x06700070 0x0ff000f0 .byteAluOp g12 dna g16 g0,
  cinst "UHADD8" 0x06700090 0x0ff000f0 .byteAluOp g12 dna g16 g0,
  cinst "UHSUB8" 0x067000f0 0x0ff000f0 .byteAluOp g12 dna g16 g0,
  tail "X4_241_END",
  connect "X4_241_1",
  cinst "UADD16" 0x06500010 0x0ff000f0 .byteAluOp g12 dna g16 g0,
  cinst "UASX" 0x06500030 0x0ff000f0 .byteAluOp g12 dna g16 g0,
  cinst "USAX" 0x06500050 0x0ff000f0 .byteAluOp g12 dna g16 g0,
  cinst "USUB16" 0x06500070 0x0ff000f0 .byteAluOp g12 dna g16 g0,
  cinst "UADD8" 0x06500090 0x0ff000f0 .byteAluOp g12 dna g16 g0,
  cinst "USUB8" 0x065000f0 0x0ff000f0 .byteAluOp g12 dna g16 g0,
  tail "X4_241_1_END",
  connect "X4_241_2",
  cinst "UQADD16" 0x06600010 0x0ff000f0 .byteAluOp g12 dna g16 g0,
  cinst "UQASX" 0x06600030 0x0ff000f0 .byteAluOp g12 dna g16 g0,
  cinst "UQSAX" 0x06600050 0x0ff000f0 .byteAluOp g12 dna g16 g0,
  cinst "UQSUB16" 0x06600070 0x0ff000f0 .byteAluOp g12 dna g16 g0,
  cinst "UQADD8" 0x06600090 0x0ff000f0 .byteAluOp g12 dna g16 g0,
  cinst "UQSUB8" 0x066000f0 0x0ff000f0 .byteAluOp g12 dna g16 g0,
  tail "X4_241_2_END",
  connect "X4_281",
  cinst "PKH" 0x06800010 0x0ff00030 .miscOp g12 dna g16 g0 shift7 (dimm 6 6),
  cinst "SSAT" 0x06a00010 0x0fe00030 .miscOp g12 dna (dimm 16 20) g0 shift7,
  cinst "USAT" 0x06e00010 0x0fe00030 .extOp g12 dna (dimm 16 20) g0 shift7,
  cinst "SXTB16" 0x068f0070 0x0fff00f0 .extOp g12 dna (drotategpr 0 3 10 11),
  einst "SXTAB16" 0x06800070 0x0ff000f0 0x000f0000 .extOp g12 dna (drotategpr 0 3 10 11) g16,
  cinst "SEL" 0x068000b0 0x0ff000f0 .byteAluOp g12 dna g16 g0,
  cinst "SSAT16" 0x06a00030 0x0ff000f0 .miscOp g12 dna (dimm 16 19) g0,
  cinst "SXTB" 0x06af0070 0x0fff00f0 .extOp g12 dna (drotategpr 0 3 10 11),
  einst "SXTAB" 0x06a00070 0x0ff000f0 0x000f0000 .extOp g12 dna (drotategpr 0 3 10 11) g16,
  cinst "REV" 0x06b00030 0x0ff000f0 .reverseOp g12 dna g0,
  cinst "SXTH" 0x06bf0070 0x0fff00f0 .extOp g12 dna (drotategpr 0 3 10 11),
  einst "SXTAH" 0x06b00070 0x0ff000f0 0x000f0000 .extOp g12 dna (drotategpr 0 3 10 11) g16,
  cinst "REV16" 0x06b000b0 0x0ff000f0 .reverseOp g12 dna g0,
  cinst "UXTB16" 0x06cf0070 0x0fff00f0 .extOp g12 dna (drotategpr 0 3 10 11),
  einst "UXTAB16" 0x06c00070 0x0ff000f0 0x000f0000 .extOp g12 dna (drotategpr 0 3 10 11) g16,
  cinst "USAT16" 0x06e00030 0x0ff000f0 .extOp g12 dna (dimm 16 19) g0,
  cinst "UXTB" 0x06ef0070 0x0fff00f0 .extOp g12 dna (drotategpr 0 3 10 11),
  einst "UXTAB" 0x06e00070 0x0ff000f0 0x000f0000 .extOp g12 dna (drotategpr 0 3 10 11) g16,
  cinst "RBIT" 0x06f00030 0x0ff000f0 .reverseOp g12 dna g0,
  cinst "UXTH" 0x06ff0070 0x0fff00f0 .extOp g12 dna (drotategpr 0 3 10 11),
  einst "UXTAH" 0x06f00070 0x0ff000f0 0x000f0000 .extOp g12 dna (drotategpr 0 3 10 11) g16,
  cinst "REVSH" 0x06f000b0 0x0ff000f0 .reverseOp g12 dna g0,
  tail "X4_281_END",
  connect "X4_301",
  cinst "SMUAD" 0x0700f010 0x0ff0f0d0 .smuldOp g16 dna g0 g8,
  einst "SMLAD" 0x07000010 0x0ff000d0 0x0000f000 .smuldOp g16 dna g0 g8 g12,
  cinst "SMUSD" 0x0700f050 0x0ff0f0d0 .smuldOp g16 dna g0 g8,
  einst "SMLSD" 0x07000050 0x0ff000d0 0x0000f000 .smuldOp g16 dna g0 g8 g12,
  cinst "SMLALD" 0x07400010 0x0ff000d0 .smuldOp g16 g12 g0 g8,
  cinst "SMLSLD" 0x07400050 0x0ff000d0 .smuldOp g16 g12 g0 g8,
  cinst "SMMUL" 0x0750f010 0x0ff0f0d0 .smulOp g16 dna g0 g8,
  einst "SMMLA" 0x07500010 0x0ff000d0 0x0000f000 .smulOp g16 dna g0 g8 g12,
  cinst "SMMLS" 0x075000d0 0x0ff000d0 .smulOp g16 dna g0 g8 g12,
  tail "X4_301_END"]

/-- `X8`: branches and block transfers. -/
def armX8 : List InstrDesc := [
  connect "X8",
  cinst "POP_a1" 0x08bd0000 0x0fff0000 .popOp (dgprList 0 15) dna g16,
  cinst "PUSH_a1" 0x092d0000 0x0fff0000 .pushOp dna dna g16 (dgprList 0 15),
  cinst "STMDA" 0x08000000 0x0fd00000 .stmOp dna dna g16 (dgprList 0 15),
  cinst "LDMDA" 0x08100000 0x0fd00000 .ldmOp (dgprList 0 15) dna g16,
  cinst "STM" 0x08800000 0x0fd00000 .stmOp dna dna g16 (dgprList 0 15),
  cinst "LDM" 0x08900000 0x0fd00000 .ldmOp (dgprList 0 15) dna g16,
  cinst "STMDB" 0x09000000 0x0fd00000 .stmOp dna dna g16 (dgprList 0 15),
  cinst "LDMDB" 0x09100000 0x0fd00000 .ldmOp (dgprList 0 15) dna g16,
  cinst "STMIB" 0x09800000 0x0fd00000 .stmOp dna dna g16 (dgprList 0 15),
  cinst "LDMIB" 0x09900000 0x0fd00000 .ldmOp (dgprList 0 15) dna g16,
  cinst "STM_ureg" 0x08400000 0x0e500000 .sysOp dna dna g16 (dgprList 0 15),
  cinst "LDM_ureg" 0x08500000 0x0e508000 .sysOp dna dna g16 (dgprList 0 15),
  cinst "LDM_expr" 0x08508000 0x0e508000 .sysOp dna dna g16 (dgprList 0 15),
  cinst "B_imm" 0x0a000000 0x0f000000 .jmpOp dna dna (dimmSignExtend 0 23 0),
  cinst "BL_imm_a1" 0x0b000000 0x0f000000 .jmpOp dna dna (dimmSignExtend 0 23 0),
  tail "X8_END"]

/-- `XC`: supervisor call, coprocessor and VFP. -/
def armXC : List InstrDesc := [
  connect "XC",
  cinst "SVC" 0x0f000000 0x0f000000 .miscOp dna dna (dimm 0 23),
  link "XC_A",
  cinst "MCR_reg" 0x0e000010 0x0f100010 .coprOp g12 dna (dimm 21 23) g16 g0 (dimm 5 7),
  cinst "MRC_reg" 0x0e100010 0x0f100010 .coprOp g12 dna (dimm 21 23) g16 g0 (dimm 5 7),
  inst "STC" 0x0c000000 0x0e100000 0x00000000 0x03a00000 .noOp dna dna g16,
  inst "LDC_lit" 0x0c1f0000 0x0e1f0000 0x00000000 0x03a00000 .noOp,
  inst "LDC_imm" 0x0c100000 0x0e100000 0x00000000 0x03a00000 .noOp dna dna g16,
  cinst "MCRR" 0x0c400000 0x0ff00000 .noOp dna dna g12 g16,
  cinst "MRRC" 0x0c500000 0x0ff00000 .noOp dna dna g12 g16,
  cinst "CDP" 0x0e000000 0x0f000010 .noOp,
  tail "XC_END",
  connect "XC_A",
  link "XC_A_0",
  link "XC_A_1",
  link "XC_A_20",
  link "XC_A_21",
  tail "XC_A_END",
  connect "XC_A_0",
  cinst "VMOV_2reg_2sp" 0x0c400a10 0x0ff00fd0 .vfpOp s0 dna g12 g16,
  cinst "VMOV_2sp_2reg" 0x0c500a10 0x0ff00fd0 .vfpOp g12 g16 s0,
  cinst "VMOV_2reg_dp" 0x0c400b10 0x0ff00fd0 .vfpOp d0 dna g12 g16,
  cinst "VMOV_dp_2reg" 0x0c500b10 0x0ff00fd0 .vfpOp g12 g16 d0,
  cinst "VSTM_nw_a2" 0x0c800a00 0x0fb00f00 .vfpOp dna dna s12 g16 imm8,
  cinst "VSTM_nw_a1" 0x0c800b00 0x0fb00f00 .vfpOp dna dna d12 g16 imm8,
  cinst "VSTM_w_a2" 0x0ca00a00 0x0fb00f00 .vfpOp dna dna s12 g16 imm8,
  cinst "VSTM_w_a1" 0x0ca00b00 0x0fb00f00 .vfpOp dna dna d12 g16 imm8,
  cinst "VLDM_nw_a2" 0x0c900a00 0x0fb00f00 .vfpOp s12 dna g16 imm8,
  cinst "VLDM_nw_a1" 0x0c900b00 0x0fb00f00 .vfpOp d12 dna g16 imm8,
  cinst "VPOP_a2" 0x0cbd0a00 0x0fbf0f00 .vfpOp s12 dna g16 imm8,
  cinst "VPOP_a1" 0x0cbd0b00 0x0fbf0f00 .vfpOp d12 dna g16 imm8,
  inst "VLDM_w_a2" 0x0cb00a00 0x0fb00f00 0xf00d0000 0xf00f0000 .vfpOp s12 dna g16 imm8,
  inst "VLDM_w_a1" 0x0cb00b00 0x0fb00f00 0xf00d0000 0xf00f0000 .vfpOp d12 dna g16 imm8,
  tail "XC_A_0_END",
  connect "XC_A_1",
  cinst "VSTR_a2" 0x0d000a00 0x0f300f00 .vfpOp dna dna s12 g16 (dimmZeroExtend 0 7 2),
  cinst "VSTR_a1" 0x0d000b00 0x0f300f00 .vfpOp dna dna d12 g16 (dimmZeroExtend 0 7 2),
  cinst "VPUSH_a2" 0x0d2d0a00 0x0fbf0f00 .vfpOp dna dna s12 g16 imm8,
  cinst "VPUSH_a1" 0x0d2d0b00 0x0fbf0f00 .vfpOp dna dna d12 g16 imm8,
  inst "VSTM_db_w_a2" 0x0d200a00 0x0fb00f00 0xf00d0000 0xf00f0000 .vfpOp dna dna s12 g16 imm8,
  inst "VSTM_db_w_a1" 0x0d200b00 0x0fb00f00 0xf00d0000 0xf00f0000 .vfpOp dna dna d12 g16 imm8,
  cinst "VLDR_a2" 0x0d100a00 0x0f300f00 .vfpOp s12 dna g16 (dimmZeroExtend 0 7 2),
  cinst "VLDR_a1" 0x0d100b00 0x0f300f00 .vfpOp d12 dna g16 (dimmZeroExtend 0 7 2),
  cinst "VLDM_db_w_a2" 0x0d300a00 0x0fb00f00 .vfpOp s12 dna g16 imm8,
  cinst "VLDM_db_w_a1" 0x0d300b00 0x0fb00f00 .vfpOp d12 dna g16 imm8,
  tail "XC_A_1_END",
  connect "XC_A_20",
  link "XC_A_20_B",
  cinst "VMLA_vfp_a2" 0x0e000a00 0x0fb00e50 .vfpOp f12 dna f16 f0,
  cinst "VMLS_vfp_a2" 0x0e000a40 0x0fb00e50 .vfpOp f12 dna f16 f0,
  cinst "VNMLA" 0x0e100a40 0x0fb00e50 .vfpOp f12 dna f16 f0,
  cinst "VNMLS" 0x0e100a00 0x0fb00e50 .vfpOp f12 dna f16 f0,
  cinst "VMUL_fp_a2" 0x0e200a00 0x0fb00e50 .vfpOp f12 dna f16 f0,
  cinst "VNMUL" 0x0e200a40 0x0fb00e50 .vfpOp f12 dna f16 f0,
  cinst "VADD_fp_a2" 0x0e300a00 0x0fb00e50 .vfpOp f12 dna f16 f0,
  cinst "VSUB_fp_a2" 0x0e300a40 0x0fb00e50 .vfpOp f12 dna f16 f0,
  cinst "VDIV" 0x0e800a00 0x0fb00e50 .vfpOp f12 dna f16 f0,
  tail "XC_A_20_END",
  connect "XC_A_20_B",
  cinst "VMOV_imm" 0x0eb00a00 0x0fb00e50 .vfpOp f12 dna (dimmVfpExpand 16 19 0 3),
  cinst "VMOV" 0x0eb00a40 0x0fbf0ed0 .vfpOp f12 dna f0,
  cinst "VABS" 0x0eb00ac0 0x0fbf0ed0 .vfpOp f12 dna f0,
  cinst "VNEG_a2" 0x0eb10a40 0x0fbf0ed0 .vfpOp f12 dna f0,
  cinst "VSQRT" 0x0eb10ac0 0x0fbf0ed0 .vfpOp f12 dna f0,
  cinst "VCVTB" 0x0eb20a40 0x0fbe0fd0 .vfpOp s12 dna s0,
  cinst "VCVTT" 0x0eb20ac0 0x0fbe0fd0 .vfpOp s12 dna s0,
  cinst "VCMP_a1" 0x0eb40a40 0x0fbf0ed0 .vfpOp dna dna f12 f0,
  cinst "VCMP_a2" 0x0eb50a40 0x0fbf0ed0 .vfpOp dna dna f12,
  cinst "VCMPE_a1" 0x0eb40ac0 0x0fbf0ed0 .vfpOp dna dna f12 f0,
  cinst "VCMPE_a2" 0x0eb50ac0 0x0fbf0ed0 .vfpOp dna dna f12,
  inst "VCVT_spdp" 0x0eb70ac0 0x0fbf0fd0 0x00000000 0x000e0000 .vfpOp d12 dna s0,
  inst "VCVT_dpsp" 0x0eb70bc0 0x0fbf0fd0 0x00000000 0x000e0000 .vfpOp s12 dna d0,
  inst "VCVT_imm" 0x0eba0a40 0x0fba0e50 0x00000000 0x000e0000 .vfpOp
    f12 dna f12 (dimmMerge 0 3 5 5),
  inst "VCVT" 0x0eb80a40 0x0fb80e50 0x00000000 0x000e0000 .vfpOp f12 dna f0 (dimm 16 18) (dimm 7 7),
  tail "XC_A_20_B_END",
  connect "XC_A_21",
  cinst "VMOV_reg2sp" 0x0e000a10 0x0ff00f10 .vfpOp (fpsr 16 19 7) dna g12,
  cinst "VMOV_sp2reg" 0x0e100a10 0x0ff00f10 .vfpOp g12 dna (fpsr 16 19 7),
  cinst "VMSR" 0x0ee10a10 0x0fff0f90 .vfpOp dna dna g12,
  cinst "VMOV_reg2sc" 0x0e000b10 0x0f900f10 .vfpOp d16 dna g12,
  cinst "VDUP" 0x0e800b10 0x0f900f50 .simdOp (fpqdr 16 19 7 21) dna g12 (dimmMerge 5 5 22 22),
  cinst "VMRS" 0x0ef10a10 0x0fff0f90 .vfpOp g12,
  cinst "VMOV_sc2reg" 0x0e100b10 0x0f100f10 .vfpOp g12 dna d16,
  tail "XC_A_21_END"]

/-- `F0`: processor state changes. -/
def armF0 : List InstrDesc := [
  connect "F0",
  pinst "CPS" 0xf1000000 0xfff10020 .sysOp,
  pinst "SETEND" 0xf1010000 0xfff100f0 .noOp,
  tail "F0_END"]

/-- `F2`: SIMD data processing. -/
def armF2 : List InstrDesc := [
  connect "F2",
  link "F2_0",
  link "F2_801",
  link "F2_8x1",
  link "F2_1B00",
  link "F2_8x0",
  link "F2_8x4",
  pinst "VEXT" 0xf2b00000 0xffb00010 .simdOp q12 dna q16 q0 (dimm 8 11),
  pinst "VTBL" 0xf3b00800 0xffb00c50 .simdOp d12 dna d16 d0,
  pinst "VTBX" 0xf3b00840 0xffb00c50 .simdOp d12 dna d16 d0,
  pinst "VDUP_sc" 0xf3b00c00 0xffb00f90 .simdOp q12 dna d0 (dimm 16 19),
  tail "F2_END",
  connect "F2_0",
  link "F2_0_0",
  link "F2_0_2",
  link "F2_0_4",
  link "F2_0_6",
  link "F2_0_8",
  link "F2_0_A",
  link "F2_0_C",
  link "F2_0_E",
  tail "F2_0_END",
  connect "F2_0_0",
  pinst "VHADD" 0xf2000000 0xfe800f10 .simdOp q12 dna q16 q0 size20,
  pinst "VQADD" 0xf2000010 0xfe800f10 .simdOp q12 dna q16 q0 size18,
  pinst "VRHADD" 0xf2000100 0xfe800f10 .simdOp q12 dna q16 q0 size20,
  pinst "VAND" 0xf2000110 0xffb00f10 .simdOp q12 dna q16 q0,
  pinst "VBIC" 0xf2100110 0xffb00f10 .simdOp q12 dna q16 q0,
  pinst "VORR" 0xf2200110 0xffb00f10 .simdOp q12 dna q16 q0,
  pinst "VORN" 0xf2300110 0xffb00f10 .simdOp q12 dna q16 q0,
  pinst "VEOR" 0xf3000110 0xffb00f10 .simdOp q12 dna q16 q0,
  pinst "VBSL" 0xf3100110 0xffb00f10 .simdOp q12 dna q16 q0,
  pinst "VBIT" 0xf3200110 0xffb00f10 .simdOp q12 dna q16 q0,
  pinst "VBIF" 0xf3300110 0xffb00f10 .simdOp q12 dna q16 q0,
  tail "F2_0_0_END",
  connect "F2_0_2",
  pinst "VHSUB" 0xf2000200 0xfe800f10 .simdOp q12 dna q16 q0 size20,
  pinst "VQSUB" 0xf2000210 0xfe800f10 .simdOp q12 dna q16 q0 size20,
  pinst "VCGT" 0xf2000300 0xfe800f10 .simdOp q12 dna q16 q0 size20,
  pinst "VCGE" 0xf2000310 0xfe800f10 .simdOp q12 dna q16 q0 size20,
  tail "F2_0_2_END",
  connect "F2_0_4",
  pinst "VSHL" 0xf2000400 0xfe800f10 .simdOp q12 dna q16 q0 size20,
  pinst "VQSHL" 0xf2000410 0xfe800f10 .simdOp q12 dna q16 q0 size20,
  pinst "VRSHL" 0xf2000500 0xfe800f10 .simdOp q12 dna q16 q0 size20,
  pinst "VQRSHL" 0xf2000510 0xfe800f10 .simdOp q12 dna q16 q0 size20,
  tail "F2_0_4_END",
  connect "F2_0_6",
  pinst "VMAX_int" 0xf2000600 0xfe800f10 .simdOp q12 dna q16 q0 size20,
  pinst "VMIN_int" 0xf2000610 0xfe800f10 .simdOp q12 dna q16 q0 size20,
  einst "VABD_int" 0xf2000700 0xfe800f10 0x00300000 .simdOp q12 dna q16 q0 size20,
  pinst "VABA" 0xf2000710 0xfe800f10 .simdOp q12 dna q16 q0 size20,
  tail "F2_0_6_END",
  connect "F2_0_8",
  pinst "VADD_int" 0xf2000800 0xff800f10 .simdOp q12 dna q16 q0 size20,
  pinst "VSUB_int" 0xf3000800 0xff800f10 .simdOp q12 dna q16 q0 size20,
  pinst "VTST" 0xf2000800 0xff800f10 .simdOp q12 dna q16 q0 size20,
  pinst "VCEQ" 0xf3000810 0xff800f10 .simdOp q12 dna q16 q0 size20,
  einst "VMLA" 0xf2000900 0xff800f10 0x00300000 .simdOp q12 dna q16 q0 size20,
  einst "VMLS" 0xf3000900 0xff800f10 0x00300000 .simdOp q12 dna q16 q0 size20,
  einst "VMUL_int_a1" 0xf2000910 0xff800f10 0x00300000 .simdOp q12 dna q16 q0 size20,
  einst "VMUL_poly_a1" 0xf3000910 0xff800f10 0x00300000 .simdOp q12 dna q16 q0 size20,
  tail "F2_0_8_END",
  connect "F2_0_A",
  pinst "VPMAX_int" 0xf2000a00 0xfe800f10 .simdOp d12 dna d16 d0 size18,
  pinst "VPMIN_int" 0xf2000a10 0xfe800f10 .simdOp d12 dna d16 d0 size18,
  einst "VQDMULH" 0xf2000b00 0xff800f10 0x00300000 .simdOp q12 dna q16 q0 size20,
  pinst "VQRDMULH" 0xf3000b00 0xff800f10 .simdOp q12 dna q16 q0 size20,
  einst "VPADD" 0xf2000b10 0xff800f10 0x00300000 .simdOp d12 dna d16 d0 size18,
  tail "F2_0_A_END",
  connect "F2_0_C",
  pinst "VADD_fp_a1" 0xf2000d00 0xffa00f10 .simdOp q12 dna q16 q0 (dimm 21 21),
  pinst "VSUB_fp_a1" 0xf2200d00 0xffa00f10 .simdOp q12 dna q16 q0 (dimm 21 21),
  einst "VPADD_fp" 0xf3000d00 0xffa00f10 0x00100000 .simdOp d12 dna d16 d0,
  pinst "VABD_fp" 0xf3200d00 0xffa00f10 .simdOp q12 dna q16 q0 (dimm 20 20),
  pinst "VMLA_fp" 0xf2000d10 0xffa00f10 .simdOp q12 dna q16 q0,
  pinst "VMLS_fp" 0xf2200d10 0xffa00f10 .simdOp q12 dna q16 q0,
  pinst "VMUL_fp_a1" 0xf3000d10 0xffa00f10 .simdOp q12 dna q16 q0,
  tail "F2_0_C_END",
  connect "F2_0_E",
  pinst "VCEQ_fp" 0xf2000e00 0xffa00f10 .simdOp q12 dna q16 q0,
  pinst "VCGE_fp" 0xf3000e00 0xffa00f10 .simdOp q12 dna q16 q0,
  pinst "VCGT_fp" 0xf3200e00 0xffa00f10 .simdOp q12 dna q16 q0,
  pinst "VACGE" 0xf3000e10 0xffa00f10 .simdOp q12 dna q16 q0,
  pinst "VACGT" 0xf3200e10 0xffa00f10 .simdOp q12 dna q16 q0,
  pinst "VMAX_fp" 0xf2000f00 0xffa00f10 .simdOp q12 dna q16 q0,
  pinst "VMIN_fp" 0xf2200f00 0xffa00f10 .simdOp q12 dna q16 q0,
  pinst "VPMAX_fp" 0xf3000f00 0xffa00f10 .simdOp d12 dna d16 d0,
  pinst "VPMIN_fp" 0xf3200f00 0xffa00f10 .simdOp d12 dna d16 d0,
  pinst "VRECPS" 0xf2000f10 0xffa00f10 .simdOp q12 dna q16 q0,
  pinst "VRSQRTS" 0xf2200f10 0xffa00f10 .simdOp q12 dna q16 q0,
  tail "F2_0_E_END",
  connect "F2_801",
  pinst "VMOV_imm_0" 0xf2800010 0xfeb80990 .simdOp q12 dna (dimmSimdexp 0 3),
  pinst "VMOV_imm_1" 0xf2800810 0xfeb80d90 .simdOp q12 dna (dimmSimdexp 0 3),
  pinst "VMOV_imm_2" 0xf2800c10 0xfeb80c90 .simdOp q12 dna (dimmSimdexp 0 3),
  pinst "VMOV_imm_3" 0xf2800e10 0xfeb80f90 .simdOp q12 dna (dimmSimdexp 0 3),
  pinst "VORR_imm" 0xf2800110 0xfeb809b0 .simdOp q12 dna q12 (dimmSimdexp 0 3),
  pinst "VORR_imm_0" 0xf2800910 0xfeb80db0 .simdOp q12 dna q12 (dimmSimdexp 0 3),
  pinst "VMVN_imm" 0xf2800030 0xfeb809b0 .simdOp q12 dna (dimmSimdexp 0 3),
  pinst "VMVN_imm_0" 0xf2800830 0xfeb80db0 .simdOp q12 dna (dimmSimdexp 0 3),
  pinst "VMVN_imm_1" 0xf2800c30 0xfeb80eb0 .simdOp q12 dna (dimmSimdexp 0 3),
  pinst "VBIC_imm" 0xf2800130 0xfeb809b0 .simdOp q12 dna q12 (dimmSimdexp 0 3),
  pinst "VBIC_imm_0" 0xf2800930 0xfeb80d30 .simdOp q12 dna q12 (dimmSimdexp 0 3),
  tail "F2_801_END",
  connect "F2_8x1",
  pinst "VSHR" 0xf2800010 0xfe800f10 .simdOp q12 dna q0 (dimmMerge 7 7 16 21),
  pinst "VSRA" 0xf2800110 0xfe800f10 .simdOp q12 dna q0 (dimmMerge 7 7 16 21),
  pinst "VRSHR" 0xf2800210 0xfe800f10 .simdOp q12 dna q0 (dimmMerge 7 7 16 21),
  pinst "VRSRA" 0xf2800310 0xfe800f10 .simdOp q12 dna q0 (dimmMerge 7 7 16 21),
  pinst "VSRI" 0xf3800410 0xff800f10 .simdOp q12 dna q0 (dimmMerge 7 7 16 21),
  pinst "VSHL_imm" 0xf2800510 0xff800f10 .simdOp q12 dna q0 (dimmMerge 7 7 16 21),
  pinst "VSLI" 0xf3800510 0xff800f10 .simdOp q12 dna q0 (dimmMerge 7 7 16 21),
  pinst "VQSHLU_imm" 0xf3800610 0xff800f10 .simdOp q12 dna q0 (dimmMerge 7 7 16 21),
  pinst "VQSHL_imm" 0xf2800710 0xfe800f10 .simdOp q12 dna q0 (dimmMerge 7 7 16 21),
  pinst "VSHRN" 0xf2800810 0xff800fd0 .simdOp d12 dna x0 (dimm 16 21),
  pinst "VRSHRN" 0xf2800850 0xff800f50 .simdOp d12 dna x0 (dimm 16 21),
  pinst "VQSHRUN" 0xf3800810 0xff800f50 .simdOp d12 dna x0 (dimm 16 21),
  pinst "VQRSHRUN" 0xf3800850 0xff800f50 .simdOp d12 dna x0 (dimm 16 21),
  pinst "VQSHRN" 0xf2800910 0xfe800f50 .simdOp d12 dna x0 (dimm 16 21),
  pinst "VQRSHRN" 0xf2800950 0xfe800f50 .simdOp d12 dna x0 (dimm 16 21),
  pinst "VMOV_a1" 0xf2200110 0xffb00f10 .simdOp q12 dna q0 q16,
  pinst "VMOVL" 0xf2800a10 0xfe870fd0 .simdOp x12 dna d0 (dimm 19 21),
  inst "VSHLL" 0xf2800a10 0xfe800f50 0x00000000 0x00380000 .simdOp x12 dna d0 (dimm 16 21),
  pinst "VCVT_fpfx" 0xf2800e10 0xfe800e10 .simdOp q12 dna q0 (dimm 8 8),
  tail "F2_8x1_END",
  connect "F2_8x0",
  einst "VADDL" 0xf2800000 0xfe800f50 0x00300000 .simdOp x12 dna d16 d0 size20,
  einst "VADDW" 0xf2800100 0xfe800f50 0x00300000 .simdOp x12 dna x16 d0 size20,
  einst "VSUBL" 0xf2800200 0xfe800f50 0x00300000 .simdOp x12 dna d16 d0 size20,
  einst "VSUBW" 0xf2800300 0xfe800f50 0x00300000 .simdOp x12 dna x16 d0 size20,
  einst "VADDHN" 0xf2800400 0xff800f50 0x00300000 .simdOp d12 dna x16 x0 size20,
  einst "VRADDHN" 0xf3800400 0xff800f50 0x00300000 .simdOp d12 dna x16 x0 size20,
  einst "VABAL" 0xf2800500 0xfe800f50 0x00300000 .simdOp x12 dna d16 d0 size20,
  einst "VSUBHN" 0xf2800600 0xff800f50 0x00300000 .simdOp d12 dna x16 x0 size20,
  einst "VRSUBHN" 0xf3800600 0xff800f50 0x00300000 .simdOp d12 dna x16 x0 size20,
  einst "VABDL_int" 0xf2800700 0xfe800f50 0x00300000 .simdOp x12 dna d16 d0 size20,
  einst "VMLAL_int" 0xf2800800 0xfe800f50 0x00300000 .simdOp x12 dna d16 d0 size20,
  einst "VMLSL_int" 0xf2800a00 0xfe800f50 0x00300000 .simdOp x12 dna d16 d0 size20,
  einst "VQDMLAL" 0xf2800900 0xff800f50 0x00300000 .simdOp x12 dna d16 d0 size20,
  einst "VQDMLSL" 0xf2800b00 0xff800f50 0x00300000 .simdOp x12 dna d16 d0 size20,
  einst "VMULL_int" 0xf2800c00 0xfe800f50 0x00300000 .simdOp x12 dna d16 d0 size20,
  einst "VQDMULL" 0xf2800d00 0xff800f50 0x00300000 .simdOp x12 dna d16 d0 size20,
  einst "VMULL_poly" 0xf2800e00 0xfe800f50 0x00300000 .simdOp x12 dna d16 d0 size20,
  tail "F2_8x0_END",
  connect "F2_8x4",
  einst "VMLA_sc" 0xf2800040 0xfe800e50 0x00300000 .simdOp
    (fpqdr 12 15 22 24) dna (fpqdr 16 19 7 24) d0 size20,
  einst "VMLS_sc" 0xf2800440 0xfe800e50 0x00300000 .simdOp
    (fpqdr 12 15 22 24) dna (fpqdr 16 19 7 24) d0 size20,
  einst "VMLAL_sc" 0xf2800240 0xfe800f50 0x00300000 .simdOp x12 dna d16 d0 size20,
  einst "VMLSL_sc" 0xf2800640 0xfe800f50 0x00300000 .simdOp x12 dna d16 d0 size20,
  pinst "VQDMLAL_sc" 0xf2800340 0xff800f50 .simdOp x12 dna d16 d0 size20,
  pinst "VQDMLSL_sc" 0xf2800740 0xff800f50 .simdOp x12 dna d16 d0 size20,
  pinst "VMUL_sc" 0xf2800840 0xfe800e50 .simdOp
    (fpqdr 12 15 22 24) dna (fpqdr 16 19 7 24) d0 size20,
  pinst "VMULL_sc" 0xf2800a40 0xfe800f50 .simdOp x12 dna d16 d0 size20,
  pinst "VQDMULL_sc" 0xf2800b40 0xff800f50 .simdOp x12 dna d16 d0 size20,
  pinst "VQDMULH_sc" 0xf2800c40 0xfe800f50 .simdOp
    (fpqdr 12 15 22 24) dna (fpqdr 16 19 7 24) d0 size20,
  pinst "VQRDMULH_sc" 0xf2800d40 0xfe800f50 .simdOp
    (fpqdr 12 15 22 24) dna (fpqdr 16 19 7 24) d0 size20,
  tail "F2_8x4_END",
  connect "F2_1B00",
  link "F2_1B00_0",
  link "F2_1B00_1",
  link "F2_1B00_2",
  link "F2_1B00_3",
  tail "F2_1B00_END",
  connect "F2_1B00_0",
  pinst "VREV64" 0xf3b00000 0xffb30f90 .simdOp q12 dna q0 size18,
  pinst "VREV32" 0xf3b00080 0xffb30f90 .simdOp q12 dna q0 size18,
  pinst "VREV16" 0xf3b00100 0xffb30f90 .simdOp q12 dna q0 size18,
  einst "VPADDL" 0xf3b00200 0xffb30f10 0x000c0000 .simdOp q12 dna q0 size18,
  einst "VCLS" 0xf3b00400 0xffb30f90 0x000c0000 .simdOp q12 dna q0 size18,
  einst "VCLZ" 0xf3b00480 0xffb30f90 0x000c0000 .simdOp q12 dna q0 size18,
  pinst "VCNT" 0xf3b00500 0xffbf0f90 .simdOp q12 dna q0 size18,
  pinst "VMVN" 0xf3b00580 0xffb30f90 .simdOp q12 dna q0 size18,
  pinst "VPADAL" 0xf3b00600 0xffb30f10 .simdOp q12 dna q0 size18,
  pinst "VQABS" 0xf3b00700 0xffb30f90 .simdOp q12 dna q0 size18,
  pinst "VQNEG" 0xf3b00780 0xffb30f90 .simdOp q12 dna q0 size18,
  tail "F2_1B00_0_END",
  connect "F2_1B00_1",
  pinst "VCGT_imm" 0xf3b10000 0xffb30b90 .simdOp q12 dna q0 size18,
  pinst "VCGE_imm" 0xf3b10080 0xffb30b90 .simdOp q12 dna q0 size18,
  pinst "VCEQ_imm" 0xf3b10100 0xffb30b90 .simdOp q12 dna q0 size18,
  pinst "VCLE_imm" 0xf3b10180 0xffb30b90 .simdOp q12 dna q0 size18,
  pinst "VCLT_imm" 0xf3b10200 0xffb30b90 .simdOp q12 dna q0 size18,
  pinst "VNEG_a1" 0xf3b10380 0xffb30b90 .simdOp q12 dna q0 size18,
  pinst "VABS_0" 0xf3b10300 0xffb30b90 .simdOp q12 dna q0 size18,
  tail "F2_1B00_1_END",
  connect "F2_1B00_2",
  pinst "VSWP" 0xf3b20000 0xffb30f90 .simdOp q12 dna q0 size18,
  pinst "VTRN" 0xf3b20080 0xffb30f90 .simdOp q12 dna q0 size18,
  pinst "VUZP" 0xf3b20100 0xffb30f90 .simdOp q12 dna q0 size18,
  pinst "VZIP" 0xf3b20180 0xffb30f90 .simdOp q12 dna q0 size18,
  pinst "VMOVN" 0xf3b20200 0xffb30fd0 .simdOp d12 dna x0 size18,
  pinst "VQMOVUN" 0xf3b20240 0xffb30fd0 .simdOp d12 dna x0 (dimmMerge 7 8 18 19),
  pinst "VQMOVN" 0xf3b20280 0xffb30f90 .simdOp d12 dna x0 (dimmMerge 7 8 18 19),
  einst "VSHLL_0" 0xf3b20300 0xffb30fd0 0x000c0000 .simdOp x12 dna d0 size18,
  pinst "VCVT_hpsp" 0xf3b20600 0xffb30fd0 .simdOp d12 dna x0 (dimmMerge 8 8 18 19),
  pinst "VCVT_sphp" 0xf3b20700 0xffb30fd0 .simdOp x12 dna d0,
  tail "F2_1B00_2_END",
  connect "F2_1B00_3",
  pinst "VRECPE" 0xf3b30400 0xffb30e90 .simdOp q12 dna q0 size18,
  pinst "VRSQRTE" 0xf3b30480 0xffb30e80 .simdOp q12 dna q0 size18,
  pinst "VCVT_fpint" 0xf3b30600 0xffb30e10 .simdOp q12 dna q0 (dimmMerge 7 8 18 19),
  tail "F2_1B00_3_END"]

/-- `F4`: SIMD loads and stores, preloads, barriers, and the pseudo rows. -/
def armF4 : List InstrDesc := [
  connect "F4",
  link "F4_0",
  link "F4_2",
  pinst "PLI_imm" 0xf4500000 0xff700000 .emptyOp dna dna g16 imm12,
  einst "PLD_imm" 0xf510f000 0xff30f000 0x000f0000 .emptyOp dna dna g16 imm8,
  pinst "PLD_lit" 0xf51ff000 0xff3ff000 .emptyOp,
  pinst "CLREX" 0xf57ff01f 0xffffffff .emptyOp,
  pinst "DSB" 0xf57ff040 0xfffffff0 .emptyOp,
  pinst "DMB" 0xf57ff050 0xfffffff0 .emptyOp,
  pinst "ISB" 0xf57ff060 0xfffffff0 .emptyOp,
  pinst "PLI" 0xf6500000 0xff700010 .emptyOp dna dna g16,
  pinst "PLD" 0xf7100000 0xff300010 .emptyOp dna dna g16 g0 (dimm 4 5),
  tail "F4_END",
  connect "F4_0",
  pinst "VST1_m1e" 0xf4000200 0xffb00f00 .simdOp dna dna d12 g16 g0 (dimm 4 11),
  pinst "VST1_m1e_0" 0xf4000600 0xffb00e00 .simdOp dna dna d12 g16 g0 (dimm 4 11),
  pinst "VST1_m1e_1" 0xf4000a00 0xffb00f00 .simdOp dna dna d12 g16 g0 (dimm 4 11),
  pinst "VST2_m2e" 0xf4000300 0xffb00f00 .simdOp dna dna d12 g16 g0 (dimm 4 11),
  pinst "VST2_m2e_0" 0xf4000800 0xffb00e00 .simdOp dna dna d12 g16 g0 (dimm 4 11),
  pinst "VST3_m3e" 0xf4000400 0xffb00e00 .simdOp dna dna d12 g16 g0 (dimm 4 11),
  pinst "VST4" 0xf4000000 0xffb00e00 .simdOp dna dna d12 g16 g0 (dimm 4 11),
  pinst "VST1_1e1l" 0xf4800000 0xffb00b00 .simdOp dna dna d12 g16 g0 (dimm 4 11),
  pinst "VST1_1e1l_0" 0xf4800800 0xffb00f00 .simdOp dna dna d12 g16 g0 (dimm 4 11),
  pinst "VST2_2e1l" 0xf4800100 0xffb00b00 .simdOp dna dna d12 g16 g0 (dimm 4 11),
  pinst "VST2_2e1l_0" 0xf4800900 0xffb00f00 .simdOp dna dna d12 g16 g0 (dimm 4 11),
  pinst "VST3_3e1l" 0xf4800200 0xffb00b00 .simdOp dna dna d12 g16 g0 (dimm 4 11),
  pinst "VST3_3e1l_0" 0xf4800a00 0xffb00f00 .simdOp dna dna d12 g16 g0 (dimm 4 11),
  pinst "VST4_4e1l" 0xf4800300 0xffb00b00 .simdOp dna dna d12 g16 g0 (dimm 4 11),
  pinst "VST4_4e1l_0" 0xf4800b00 0xffb00f00 .simdOp dna dna d12 g16 g0 (dimm 4 11),
  tail "F4_0_END",
  connect "F4_2",
  pinst "VLD1_m1e" 0xf4200200 0xffb00f00 .simdOp d12 dna g16 g0 (dimm 4 11),
  pinst "VLD1_m1e_0" 0xf4200600 0xffb00e00 .simdOp d12 dna g16 g0 (dimm 4 11),
  pinst "VLD1_m1e_1" 0xf4200a00 0xffb00f00 .simdOp d12 dna g16 g0 (dimm 4 11),
  pinst "VLD2_m2e" 0xf4200300 0xffb00f00 .simdOp d12 dna g16 g0 (dimm 4 11),
  pinst "VLD2_m2e_0" 0xf4200800 0xffb00e00 .simdOp d12 dna g16 g0 (dimm 4 11),
  pinst "VLD3_m3e" 0xf4200400 0xffb00e00 .simdOp d12 dna g16 g0 (dimm 4 11),
  pinst "VLD4_m4e" 0xf4200000 0xffb00e00 .simdOp d12 dna g16 g0 (dimm 4 11),
  pinst "VLD1_1e1l" 0xf4a00000 0xffb00b00 .simdOp d12 dna g16 g0 (dimm 4 11),
  pinst "VLD1_1e1l_0" 0xf4a00800 0xffb00f00 .simdOp d12 dna g16 g0 (dimm 4 11),
  pinst "VLD1_1eal" 0xf4a00c00 0xffb00f00 .simdOp d12 dna g16 g0 (dimm 4 7),
  pinst "VLD2_2e1l" 0xf4a00100 0xffb00b00 .simdOp d12 dna g16 g0 (dimm 4 11),
  pinst "VLD2_2e1l_0" 0xf4a00900 0xffb00f00 .simdOp d12 dna g16 g0 (dimm 4 11),
  pinst "VLD2_2eal" 0xf4a00d00 0xffb00f00 .simdOp d12 dna g16 g0 (dimm 4 7),
  pinst "VLD3_3e1l" 0xf4a00200 0xffb00b00 .simdOp d12 dna g16 g0 (dimm 4 11),
  pinst "VLD3_3e1l_0" 0xf4a00a00 0xffb00f00 .simdOp d12 dna g16 g0 (dimm 4 11),
  pinst "VLD3_3eal" 0xf4a00e00 0xffb00f00 .simdOp d12 dna g16 g0 (dimm 4 7),
  pinst "VLD4_4e1l" 0xf4a00300 0xffb00b00 .simdOp d12 dna g16 g0 (dimm 4 11),
  pinst "VLD4_4e1l_0" 0xf4a00b00 0xffb00f00 .simdOp d12 dna g16 g0 (dimm 4 11),
  pinst "VLD4_4eal" 0xf4a00f00 0xffb00f00 .simdOp d12 dna g16 g0 (dimm 4 7),
  tail "F4_2_END",
  einst "PSEUDO_COND_EXEC" 0x00000000 0x00000000 0x00000000 .pseudoOp,
  einst "PSEUDO_EXIT_TO_INTERP" 0x00000000 0x00000000 0x00000000 .pseudoOp,
  einst "PSEUDO_AEABI_ARM" 0x00000000 0x00000000 0x00000000 .aeabiOp,
  einst "PSEUDO_AEABI_THUMB" 0x00000000 0x00000000 0x00000000 .aeabiOp,
  einst "PSEUDO_KERNEL_HELPER_CMPXCHG" 0x00000000 0x00000000 0x00000000 .kernelHelperOp,
  inst "PSEUDO_INDEX_INDUCTION_LOOP_ENTRY_TEST" 0x00000000 0x00000000 0x00000000 0x00000000
    .pseudoOp]

/-- The rows between `SISA_OP_NA` and `SISA_OP_ARM_MAX`. -/
def armRows : List InstrDesc :=
  armTop ++ armX0 ++ armX2 ++ armX4 ++ armX8 ++ armXC ++ armF0 ++ armF2 ++ armF4

end Rit.Table
