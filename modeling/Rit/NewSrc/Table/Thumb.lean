import Rit.NewSrc.Table.Row

/-!
# The 16-bit Thumb rows

The rows of `ubt-stub/Thumb.def`, in order.
-/

namespace Rit.Table

/-- The rows between `SISA_OP_ARM_MAX` and `SISA_OP_THUMB_MAX`. -/
def thumbRows : List InstrDesc := [
  link "T_X0",
  link "T_X4",
  link "T_X5",
  link "T_X6",
  link "T_X8",
  link "T_XA",
  link "T_XC",
  link "T_XE",
  tail "T_TOP_END",
  connect "T_X0",
  hinst "MOV_reg_T2" 0x00000000 0x0000ffc0 .movOp l0 dna l3,
  hinst "LSL_imm_T1" 0x00000000 0x0000f800 .movOp l0 dna l3 (dshftimm 6 10 11 12),
  hinst "LSR_imm_T1" 0x00000800 0x0000f800 .movOp l0 dna l3 (dshftimm 6 10 11 12),
  hinst "ASR_imm_T1" 0x00001000 0x0000f800 .movOp l0 dna l3 (dshftimm 6 10 11 12),
  hinst "ADD_reg_T1" 0x00001800 0x0000fe00 .aluOp l0 dna l3 (dgpr 6 8) (dshftimm 13 14 13 14),
  hinst "SUB_reg_T1" 0x00001a00 0x0000fe00 .aluOp l0 dna l3 (dgpr 6 8) (dshftimm 13 14 13 14),
  hinst "ADD_imm_T1" 0x00001c00 0x0000fe00 .aluOp l0 dna l3 (dimm 6 8),
  hinst "SUB_imm_T1" 0x00001e00 0x0000fe00 .aluOp l0 dna l3 (dimm 6 8),
  hinst "MOV_imm_T1" 0x00002000 0x0000f800 .movOp (dgpr 8 10) dna imm8,
  hinst "CMP_imm_T1" 0x00002800 0x0000f800 .cmpOp dna dna (dgpr 8 10) imm8,
  hinst "ADD_imm_T2" 0x00003000 0x0000f800 .aluOp (dgpr 8 10) dna (dgpr 8 10) imm8,
  hinst "SUB_imm_T2" 0x00003800 0x0000f800 .aluOp (dgpr 8 10) dna (dgpr 8 10) imm8,
  tail "T_X0_END",
  connect "T_X4",
  hinst "AND_reg_T1" 0x00004000 0x0000ffc0 .logOp l0 dna l0 l3 (dshftimm 12 13 12 13),
  hinst "EOR_reg_T1" 0x00004040 0x0000ffc0 .logOp l0 dna l0 l3 (dshftimm 12 13 12 13),
  hinst "LSL_reg_T1" 0x00004080 0x0000ffc0 .movOp l0 dna l0 (dshftgpr 3 5 8 9),
  hinst "LSR_reg_T1" 0x000040c0 0x0000ffc0 .movOp l0 dna l0 (dshftgpr 3 5 7 8),
  hinst "ASR_reg_T1" 0x00004100 0x0000ffc0 .movOp l0 dna l0 (dshftgpr 3 5 7 8),
  hinst "ADC_reg_T1" 0x00004140 0x0000ffc0 .aluOp l0 dna l0 l3 (dshftimm 12 13 12 13),
  hinst "SBC_reg_T1" 0x00004180 0x0000ffc0 .aluOp l0 dna l0 l3 (dshftimm 12 13 12 13),
  hinst "ROR_reg_T1" 0x000041c0 0x0000ffc0 .movOp l0 dna l0 (dshftgpr 3 5 7 8),
  hinst "TST_reg_T1" 0x00004200 0x0000ffc0 .testOp dna dna l0 l3 (dshftimm 12 13 12 13),
  hinst "RSB_imm_T1" 0x00004240 0x0000ffc0 .aluOp l0 dna l3,
  hinst "CMP_reg_T1" 0x00004280 0x0000ffc0 .cmpOp dna dna l0 l3 (dshftimm 12 13 12 13),
  hinst "CMN_reg_T1" 0x000042c0 0x0000ffc0 .cmpOp dna dna l0 l3 (dshftimm 12 13 12 13),
  hinst "ORR_reg_T1" 0x00004300 0x0000ffc0 .logOp l0 dna l0 l3 (dshftimm 12 13 12 13),
  hinst "MUL_reg_T1" 0x00004340 0x0000ffc0 .mul32Op l0 dna l3 l0,
  hinst "BIC_reg_T1" 0x00004380 0x0000ffc0 .logOp l0 dna l0 l3 (dshftimm 12 13 12 13),
  hinst "MVN_reg_T1" 0x000043c0 0x0000ffc0 .movOp l0 dna l3 (dshftimm 12 13 12 13),
  hinst "ADD_reg_T2" 0x00004400 0x0000ff00 .aluOp
    (dgprMerge 0 2 7) dna (dgprMerge 0 2 7) (dgpr 3 6) (dshftimm 12 13 12 13),
  hinst "ADD_sp_reg_T1" 0x00004468 0x0000ff78 .aluOp
    (dgprMerge 0 2 7) dna (dgpr 3 6) (dgprMerge 0 2 7) (dshftimm 12 13 12 13),
  hinst "ADD_sp_reg_T2" 0x00004485 0x0000ff87 .aluOp
    (dgprConst 13) dna (dgprConst 13) (dgpr 3 6) (dshftimm 12 13 12 13),
  hinst "CMP_reg_T2" 0x00004500 0x0000ff00 .cmpOp
    dna dna (dgprMerge 0 2 7) (dgpr 3 6) (dshftimm 12 13 12 13),
  hinst "MOV_reg_T1" 0x00004600 0x0000ff00 .movOp (dgprMerge 0 2 7) dna (dgpr 3 6),
  hinst "BX_T1" 0x00004700 0x0000ff80 .jmpOp dna dna (dgpr 3 6),
  hinst "BLX_reg_T1" 0x00004780 0x0000ff80 .jmpOp dna dna (dgpr 3 6),
  hinst "LDR_lit_T1" 0x00004800 0x0000f800 .ldOp
    (dgpr 8 10) dna (dgprConst 15) (dimmZeroExtend 0 7 2),
  tail "T_X4_END",
  connect "T_X5",
  hinst "STR_reg_T1" 0x00005000 0x0000fe00 .stOp dna dna l0 l3 (dgpr 6 8) (dshftimm 9 10 9 10),
  hinst "STRH_reg_T1" 0x00005200 0x0000fe00 .stOp dna dna l0 l3 (dgpr 6 8) (dshftimm 10 11 10 11),
  hinst "STRB_reg_T1" 0x00005400 0x0000fe00 .stOp dna dna l0 l3 (dgpr 6 8) (dshftimm 9 9 9 9),
  hinst "LDRSB_reg_T1" 0x00005600 0x0000fe00 .ldOp l0 dna l3 (dgpr 6 8) (dshftimm 11 11 11 11),
  hinst "LDR_reg_T1" 0x00005800 0x0000fe00 .ldOp l0 dna l3 (dgpr 6 8) (dshftimm 9 10 9 10),
  hinst "LDRH_reg_T1" 0x00005a00 0x0000fe00 .ldOp l0 dna l3 (dgpr 6 8) (dshftimm 10 10 10 10),
  hinst "LDRB_reg_T1" 0x00005c00 0x0000fe00 .ldOp l0 dna l3 (dgpr 6 8) (dshftimm 9 9 9 9),
  hinst "LDRSH_reg_T1" 0x00005e00 0x0000fe00 .ldOp l0 dna l3 (dgpr 6 8) (dshftimm 13 13 13 13),
  tail "T_X5_END",
  connect "T_X6",
  hinst "STR_imm_T1" 0x00006000 0x0000f800 .stOp dna dna l0 l3 (dimmZeroExtend 6 10 2),
  hinst "LDR_imm_T1" 0x00006800 0x0000f800 .ldOp l0 dna l3 (dimmZeroExtend 6 10 2),
  hinst "STRB_imm_T1" 0x00007000 0x0000f800 .stOp dna dna l0 l3 (dimm 6 10),
  hinst "LDRB_imm_T1" 0x00007800 0x0000f800 .ldOp l0 dna l3 (dimm 6 10),
  tail "T_X6_END",
  connect "T_X8",
  hinst "STRH_imm_T1" 0x00008000 0x0000f800 .stOp dna dna l0 l3 (dimmZeroExtend 6 10 1),
  hinst "LDRH_imm_T1" 0x00008800 0x0000f800 .ldOp l0 dna l3 (dimmZeroExtend 6 10 1),
  hinst "STR_imm_T2" 0x00009000 0x0000f800 .stOp
    dna dna (dgpr 8 10) (dgprConst 13) (dimmZeroExtend 0 7 2),
  hinst "LDR_imm_T2" 0x00009800 0x0000f800 .ldOp
    (dgpr 8 10) dna (dgprConst 13) (dimmZeroExtend 0 7 2),
  tail "T_X8_END",
  connect "T_XA",
  hinst "ADR_T1" 0x0000a000 0x0000f800 .miscOp
    (dgpr 8 10) dna (dgprConst 15) (dimmZeroExtend 0 7 2),
  hinst "ADD_sp_imm_T1" 0x0000a800 0x0000f800 .aluOp
    (dgpr 8 10) dna (dgprConst 13) (dimmZeroExtend 0 7 2),
  hinst "SETEND_T1" 0x0000b640 0x0000ffe0 .noOp,
  hinst "CPS_T1" 0x0000b660 0x0000ffe0 .noOp,
  inst "IT_T1" 0x0000bf00 0x0000ff00 0x00000000 0x0000000f .miscOp dna dna imm8,
  hinst "ADD_sp_imm_T2" 0x0000b000 0x0000ff80 .aluOp
    (dgprConst 13) dna (dgprConst 13) (dimmZeroExtend 0 6 2),
  hinst "SUB_sp_imm_T1" 0x0000b080 0x0000ff80 .aluOp
    (dgprConst 13) dna (dgprConst 13) (dimmZeroExtend 0 6 2),
  hinst "CBZ_T1" 0x0000b100 0x0000fd00 .jmpOp dna dna l0 (dimmMerge 9 9 3 7),
  hinst "SXTH_T1" 0x0000b200 0x0000ffc0 .extOp l0 dna l3,
  hinst "SXTB_T1" 0x0000b240 0x0000ffc0 .extOp l0 dna l3,
  hinst "UXTH_T1" 0x0000b280 0x0000ffc0 .extOp l0 dna l3,
  hinst "UXTB_T1" 0x0000b2c0 0x0000ffc0 .extOp l0 dna l3,
  hinst "PUSH_T" 0x0000b400 0x0000fe00 .pushOp dna dna (dgpr 10 13) (dgprListT 0 7 8 14),
  hinst "CBNZ_T1" 0x0000b900 0x0000fd00 .jmpOp dna dna l0 (dimmMerge 9 9 3 7),
  hinst "REV_T1" 0x0000ba00 0x0000ffc0 .reverseOp l0 dna l3,
  hinst "REV16_T1" 0x0000ba40 0x0000ffc0 .reverseOp l0 dna l3,
  hinst "REVSH_T1" 0x0000bac0 0x0000ffc0 .reverseOp l0 dna l3,
  hinst "POP_T" 0x0000bc00 0x0000fe00 .popOp (dgprListT 0 7 8 15) dna (dgprConst 13),
  hinst "BKPT_T1" 0x0000be00 0x0000ff00 .noOp,
  hinst "NOP_T1" 0x0000bf00 0x0000ffff .emptyOp,
  hinst "YIELD_T1" 0x0000bf10 0x0000ffff .emptyOp,
  hinst "WFE_T1" 0x0000bf20 0x0000ffff .emptyOp,
  hinst "WFI_T1" 0x0000bf30 0x0000ffff .emptyOp,
  hinst "SEV_T1" 0x0000bf40 0x0000ffff .emptyOp,
  tail "T_XA_END",
  connect "T_XC",
  hinst "STM_T1" 0x0000c000 0x0000f800 .stmOp dna dna (dgpr 8 10) (dgprList 0 7),
  hinst "LDM_T1" 0x0000c800 0x0000f800 .ldmOp (dgprList 0 7) dna (dgpr 8 10),
  einst "B_T1" 0x0000d000 0x0000f000 0x00000e00 .jmpOp dna dna (dimmSignExtend 0 7 0) (dcond 8 11),
  hinst "SVC_T1" 0x0000df00 0x0000ff00 .miscOp dna dna imm8,
  tail "T_XC_END",
  connect "T_XE",
  hinst "B_T2" 0x0000e000 0x0000f800 .jmpOp dna dna (dimmSignExtend 0 10 0),
  link "T_XE_01",
  link "T_XE_10",
  link "T_XE_11",
  tail "T_XE_END",
  connect "T_XE_01",
  tail "T_XE_01_END",
  connect "T_XE_10",
  tail "T_XE_10_END",
  connect "T_XE_11",
  tail "T_XE_11_END"]

end Rit.Table
