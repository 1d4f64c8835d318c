import Rit.NewSrc.Table.Row

/-!
# The 32-bit Thumb rows

The rows of `ubt-stub/Thumb_32.def`, in order, one list per node of its decode tree.
-/

namespace Rit.Table

/-- The root node. -/
def thumb32Top : List InstrDesc := [
  link "T32_E8",
  link "T32_EA",
  link "T32_EC",
  link "T32_F0",
  link "T32_F2",
  link "T32_F08",
  link "T32_F8",
  link "T32_FA",
  link "T32_FB",
  tail "T32_TOP_END"]

/-- `E8`: load and store multiple, dual and exclusive, table branch. -/
def thumb32E8 : List InstrDesc := [
  connect "T32_E8",
  pinst "SRS_T1" 0xe80dc000 0xffdfffe0 .noOp dna dna g16,
  pinst "RFE_T1" 0xe810c000 0xffd0ffff .noOp (dgprList 0 15) dna g16,
  pinst "STREXB_T1" 0xe8c00040 0xfff000f0 .strexOp g0 dna g12 g16,
  pinst "STREXH_T1" 0xe8c00050 0xfff000f0 .strexOp g0 dna g12 g16,
  pinst "LDREXB_T1" 0xe8d00f4f 0xfff00fff .ldrexOp g12 dna g16,
  pinst "LDREXH_T1" 0xe8d00050 0xfff000f0 .ldrexOp g12 dna g16,
  pinst "STREX_T1" 0xe8400000 0xfff00000 .strexOp g8 dna g12 g16 (dimmZeroExtend 0 7 2),
  pinst "LDREX_T1" 0xe8500f00 0xfff00f00 .ldrexOp g12 dna g16 (dimmZeroExtend 0 7 2),
  pinst "STREXD_T1" 0xe8c00070 0xfff000f0 .strexOp g0 dna g12 g8 g16,
  pinst "STRD_imm_T1" 0xe8400000 0xfe500000 .stOp dna dna g12 g8 g16 (dimmZeroExtend 0 7 2),
  pinst "TBB_T1" 0xe8d0f000 0xfff0fff0 .jmpOp dna dna g16 g0,
  pinst "TBH_T1" 0xe8d0f010 0xfff0fff0 .jmpOp dna dna g16 g0,
  pinst "LDREXD_T1" 0xe8d00070 0xfff000f0 .ldrexOp g12 g8 g16,
  einst "LDRD_imm_T1" 0xe8500000 0xfe500000 0x000f0000 .ldOp g12 g8 g16 (dimmZeroExtend 0 7 2),
  pinst "LDRD_lit_T1" 0xe85f0000 0xfe7f0000 .ldOp g12 g8 g16 (dimmZeroExtend 0 7 2),
  pinst "STM_T2" 0xe8800000 0xffd0a000 .stmOp dna dna g16 (dgprList 0 15),
  pinst "POP_T2" 0xe8bd0000 0xffff0000 .popOp (dgprListT 0 15 28 13) dna g16,
  inst "LDM_T2" 0xe8900000 0xffd02000 0x002d0000 0x002f0000 .ldmOp (dgprListT 0 15 28 13) dna g16,
  pinst "PUSH_T2" 0xe92d0000 0xffff0000 .pushOp dna dna (dgprConst 13) (dgprListT 0 12 14 14),
  pinst "PUSH_T3" 0xf85d0b04 0xffff0fff .pushOp dna dna (dgprConst 13) g12 (dimm 0 3),
  inst "STMDB_T1" 0xe9000000 0xffd0a000 0x002d0000 0x002f0000 .stmOp dna dna g16 (dgprList 0 15),
  pinst "LDMDB_T1" 0xe9100000 0xffd02000 .ldmOp (dgprList 0 15) dna g16,
  pinst "SRS_T2" 0xe98dc000 0xffdfffe0 .noOp dna dna g16,
  pinst "RFE_T2" 0xe990c000 0xffd0ffff .noOp (dgprList 0 15) dna g16,
  tail "T32_E8_END"]

/-- `EA`: data processing (shifted register). -/
def thumb32EA : List InstrDesc := [
  connect "T32_EA",
  einst "AND_reg_T2" 0xea000000 0xffe08000 0x00100f00 .logOp g8 dna g16 g0 (dshftimmT 6 7 4 5),
  pinst "TST_reg_T2" 0xea100f00 0xfff08f00 .testOp dna dna g16 g0 (dshftimmT 6 7 4 5),
  pinst "BIC_reg_T2" 0xea200000 0xffe08000 .logOp g8 dna g16 g0 (dshftimmT 6 7 4 5),
  einst "ORR_reg_T2" 0xea400000 0xffe08000 0x000f0000 .logOp g8 dna g16 g0 (dshftimmT 6 7 4 5),
  pinst "MOV_reg_T3" 0xea4f0000 0xffeff0f0 .movOp g8 dna g0,
  einst "ORN_reg_T1" 0xea600000 0xffe08000 0x000f0000 .logOp g8 dna g16 g0 (dshftimmT 6 7 4 5),
  pinst "MVN_reg_T2" 0xea6f0000 0xffef8000 .movOp g8 dna g0 (dshftimmT 6 7 4 5),
  einst "EOR_reg_T2" 0xea800000 0xffe08000 0x00100f00 .logOp g8 dna g16 g0 (dshftimmT 6 7 4 5),
  pinst "TEQ_reg_T1" 0xea900f00 0xfff08f00 .testOp dna dna g16 g0 (dshftimmT 6 7 4 5),
  pinst "PKH_reg_T1" 0xeac00000 0xffe08000 .miscOp g8 dna g16 g0 (dshftimmT 6 7 4 5) (dimm 5 5),
  einst "ADD_reg_T3" 0xeb000000 0xffe08000 0x00000f00 .aluOp g8 dna g16 g0 (dshftimmT 6 7 4 5),
  pinst "CMN_reg_T2" 0xeb100f00 0xfff00f00 .cmpOp dna dna g16 g0 (dshftimmT 6 7 4 5),
  pinst "ADC_reg_T2" 0xeb400000 0xffe08000 .aluOp g8 dna g16 g0 (dshftimmT 6 7 4 5),
  pinst "SBC_reg_T2" 0xeb600000 0xffe08000 .aluOp g8 dna g16 g0 (dshftimmT 6 7 4 5),
  einst "SUB_reg_T2" 0xeba00000 0xffe08000 0x00000f00 .aluOp g8 dna g16 g0 (dshftimmT 6 7 4 5),
  pinst "CMP_reg_T3" 0xebb00f00 0xfff08f00 .cmpOp dna dna g16 g0 (dshftimmT 6 7 4 5),
  pinst "RSB_reg_T1" 0xebc00000 0xffe08000 .aluOp g8 dna g16 g0 (dshftimmT 6 7 4 5),
  pinst "LSL_imm_T2" 0xea4f0000 0xffef8030 .movOp g8 dna g0 (dshftimmT 6 7 4 5),
  pinst "LSR_imm_T2" 0xea4f0010 0xffef8030 .movOp g8 dna g0 (dshftimmT 6 7 4 5),
  pinst "ASR_imm_T2" 0xea4f0020 0xffef8030 .movOp g8 dna g0 (dshftimmT 6 7 4 5),
  inst "ROR_imm_T2" 0xea4f0030 0xffef8030 0x00000000 0x000070c0 .movOp
    g8 dna g0 (dshftimmT 6 7 4 5),
  pinst "RRX_T1" 0xea4f0030 0xffeff0f0 .movOp g8 dna g0 (dshftimmT 6 7 4 5),
  tail "T32_EA_END"]

/-- `EC`: coprocessor, SIMD and VFP. -/
def thumb32EC : List InstrDesc := [
  connect "T32_EC",
  pinst "VMOV_2reg_2sp_T1" 0xec400a10 0xfff00fd0 .vfpOp s0 dna g12 g16,
  pinst "VMOV_2sp_2reg_T1" 0xec500a10 0xfff00fd0 .vfpOp g12 g16 s0,
  pinst "VMOV_2reg_dp_T1" 0xec400b10 0xfff00fd0 .vfpOp d0 dna g12 g16,
  pinst "VMOV_dp_2reg_T1" 0xec500b10 0xfff00fd0 .vfpOp g12 g16 d0,
  pinst "VSTM_nw_T2" 0xec800a00 0xffb00f00 .vfpOp dna dna s12 g16 imm8,
  cinst "VSTM_nw_T1" 0xec800b00 0xffb00f00 .vfpOp dna dna d12 g16 imm8,
  cinst "VSTM_w_T2" 0xeca00a00 0xffb00f00 .vfpOp dna dna s12 g16 imm8,
  cinst "VSTM_w_T1" 0xeca00b00 0xffb00f00 .vfpOp dna dna d12 g16 imm8,
  pinst "VSTR_T2" 0xed000a00 0xff300f00 .vfpOp dna dna s12 g16 (dimmZeroExtend 0 7 2),
  pinst "VSTR_T1" 0xed000b00 0xff300f00 .vfpOp dna dna d12 g16 (dimmZeroExtend 0 7 2),
  cinst "VPUSH_T2" 0xed2d0a00 0xffbf0f00 .vfpOp dna dna s12 g16 imm8,
  cinst "VPUSH_T1" 0xed2d0b00 0xffbf0f00 .vfpOp dna dna d12 g16 imm8,
  inst "VSTM_db_w_T2" 0xed200a00 0xffb00f00 0xf00d0000 0xf00f0000 .vfpOp dna dna s12 g16 imm8,
  inst "VSTM_db_w_T1" 0xed200b00 0xffb00f00 0xf00d0000 0xf00f0000 .vfpOp dna dna d12 g16 imm8,
  pinst "VLDM_nw_T2" 0xec900a00 0xffb00f00 .vfpOp s12 dna g16 imm8,
  pinst "VLDM_nw_T1" 0xec900b00 0xffb00f00 .vfpOp d12 dna g16 imm8,
  inst "VLDM_w_T2" 0xecb00a00 0xffb00f00 0x000d0000 0x000f0000 .vfpOp s12 dna g16 imm8,
  inst "VLDM_w_T1" 0xecb00b00 0xffb00f00 0x000d0000 0x000f0000 .vfpOp d12 dna g16 imm8,
  pinst "VPOP_T2" 0xecbd0a00 0xffbf0f00 .vfpOp s12 dna g16 imm8,
  pinst "VPOP_T1" 0xecbd0b00 0xffbf0f00 .vfpOp d12 dna g16 imm8,
  cinst "VLDR_T2" 0xed100a00 0xff300f00 .vfpOp s12 dna g16 (dimmZeroExtend 0 7 2),
  cinst "VLDR_T1" 0xed100b00 0xff300f00 .vfpOp d12 dna g16 (dimmZeroExtend 0 7 2),
  cinst "VLDM_db_w_T2" 0xed300a00 0xffb00f00 .vfpOp s12 dna g16 imm8,
  cinst "VLDM_db_w_T1" 0xed300b00 0xffb00f00 .vfpOp d12 dna g16 imm8,
  inst "MCRR_T1" 0xec400000 0xfff00000 0x00000a00 0x00000e00 .noOp dna dna g12 g16,
  inst "MRRC_T1" 0xec500000 0xfff00000 0x00000a00 0x00000e00 .noOp g12 g16,
  inst "STC_T1" 0xec000000 0xfe100000 0x00000a00 0x00000e00 .noOp
    dna dna g16 (dimmSignExtend 0 7 2),
  inst "LDC_lit_T1" 0xec1f0000 0xfe1f0000 0x00400000 0x01e00000 .noOp,
  inst "LDC_imm_T1" 0xec100000 0xfe100000 0x00000a00 0x00000e00 .noOp dna dna g16,
  inst "VMLA_vfp_T1" 0xef000d10 0xff800f10 0xffffffff 0xf0000000 .simdOp
    (fpdsr 12 15 22 20) dna (fpdsr 16 19 7 20) (fpdsr 0 3 5 20),
  inst "VMLA_vfp_T2" 0xee000a00 0xffb00e50 0xffffffff 0xf0000000 .vfpOp f12 dna f16 f0,
  cinst "VMLS_vfp_T2" 0xee000a40 0xffb00e50 .vfpOp f12 dna f16 f0,
  cinst "VNMLA_T1" 0xee100a40 0xffb00e50 .vfpOp f12 dna f16 f0,
  cinst "VNMLS_T1" 0xee100a00 0xffb00e50 .vfpOp f12 dna f16 f0,
  pinst "VMUL_fp_T2" 0xee200a00 0xffb00e50 .vfpOp f12 dna f16 f0,
  cinst "VNMUL_T1" 0xee200a40 0xffb00e50 .vfpOp f12 dna f16 f0,
  pinst "VADD_fp_T1" 0xef000d00 0xffa00f10 .simdOp q12 dna (fpqdr 16 19 7 8) q0,
  pinst "VADD_fp_T2" 0xee300a00 0xffb00e50 .vfpOp f12 dna f16 f0,
  pinst "VSUB_fp_T1" 0xef200d00 0xffa00f10 .simdOp q12 dna q16 q0,
  pinst "VSUB_fp_T2" 0xee300a40 0xffb00e50 .vfpOp f12 dna f16 f0,
  pinst "VDIV_T1" 0xee800a00 0xffb00e50 .vfpOp f12 dna f16 f0,
  pinst "VMOV_imm_T2" 0xeeb00a00 0xffb00e50 .vfpOp f12 dna (dimmVfpExpand 16 19 0 3),
  pinst "VMOV_reg_T2" 0xeeb00a40 0xffbf0ed0 .vfpOp f12 dna f0,
  pinst "VABS_T2" 0xeeb00ac0 0xffbf0ed0 .vfpOp f12 dna f0,
  cinst "VNEG_T2" 0xeeb10a40 0xffbf0ed0 .vfpOp f12 dna f0,
  pinst "VSQRT_T1" 0xeeb10ac0 0xffbf0ed0 .vfpOp f12 dna f0,
  pinst "VCVTB_T1" 0xeeb20a40 0xffbe0fd0 .vfpOp s12 dna s0,
  pinst "VCVTT_T1" 0xeeb20ac0 0xffbe0fd0 .vfpOp s12 dna s0,
  pinst "VCMP_T1" 0xeeb40a40 0xffbf0ed0 .vfpOp dna dna f12 f0,
  pinst "VCMP_T2" 0xeeb50a40 0xffbf0ed0 .vfpOp dna dna f12,
  pinst "VCMPE_T1" 0xeeb40ac0 0xffbf0ed0 .vfpOp dna dna f12 f0,
  pinst "VCMPE_T2" 0xeeb50ac0 0xffbf0ed0 .vfpOp dna dna f12,
  inst "VCVT_spdp_T1" 0xeeb70ac0 0xffbf0fd0 0x00000000 0x000e0000 .vfpOp d12 dna s0,
  inst "VCVT_dpsp_T1" 0xeeb70bc0 0xffbf0fd0 0x00000000 0x000e0000 .vfpOp s12 dna d0,
  inst "VCVT_imm_T1" 0xeeba0a40 0xffba0e50 0x00000000 0x000e0000 .vfpOp
    f12 dna f12 (dimmMerge 0 3 5 5),
  inst "VCVT_T1" 0xeeb80a40 0xffb80e50 0x00000000 0x000e0000 .vfpOp
    f12 dna f0 (dimm 16 18) (dimm 7 7),
  inst "CDP_T1" 0xee000000 0xff000010 0x00000a00 0x00000e00 .noOp,
  cinst "VMOV_reg2sp_T1" 0xee000a10 0xfff00f10 .vfpOp (fpsr 16 19 7) dna g12,
  cinst "VMOV_sp2reg_T1" 0xee100a10 0xfff00f10 .vfpOp g12 dna (fpsr 16 19 7),
  cinst "VMRS_T1" 0xeef10a10 0xffff0f90 .vfpOp g12,
  pinst "VMSR_T1" 0xeee10a10 0xffff0f90 .vfpOp dna dna g12,
  pinst "VMSR_sys_T1" 0xee700a10 0xfff00f90 .noOp dna dna g12,
  cinst "VMOV_reg2sc_T1" 0xee000b10 0xff900f10 .vfpOp d16 dna g12,
  cinst "VMOV_sc2reg_T1" 0xee100b10 0xff100f10 .vfpOp g12 dna d16,
  inst "MCR_reg_T1" 0xee000010 0xff100010 0x00000a00 0x00000e00 .coprOp
    g12 dna (dimm 21 23) g16 g0 (dimm 5 7),
  inst "MRC_reg_T1" 0xee100010 0xff100010 0x00000a00 0x00000e00 .coprOp
    g12 dna (dimm 21 23) g16 g0 (dimm 5 7),
  pinst "VHADD_T1" 0xef000000 0xef800f10 .simdOp q12 dna q16 q0 size20,
  pinst "VQADD_T1" 0xef000010 0xef800f10 .simdOp q12 dna q16 q0 size20,
  pinst "VRHADD_T1" 0xef000100 0xef800f10 .simdOp q12 dna q16 q0 size20,
  pinst "VAND_T1" 0xef000110 0xffb00f10 .simdOp q12 dna q16 q0,
  pinst "VBIC_T1" 0xef100110 0xffb00f10 .simdOp q12 dna q16 q0,
  pinst "VORR_T1" 0xef200110 0xffb00f10 .simdOp q12 dna q16 q0,
  pinst "VMOV_reg_T1" 0xef200110 0xffb00f10 .simdOp f12 dna f0,
  pinst "VORN_T1" 0xef300110 0xffb00f10 .simdOp q12 dna q16 q0,
  pinst "VHSUB_T1" 0xef000200 0xef800f10 .simdOp q12 dna q16 q0 size20,
  pinst "VQSUB_T1" 0xef000210 0xef800f10 .simdOp q12 dna q16 q0 size20,
  pinst "VCGT_T1" 0xef000300 0xef800f10 .simdOp q12 dna q16 q0 size20,
  pinst "VCGE_T1" 0xef000310 0xef800f10 .simdOp q12 dna q16 q0 size20,
  pinst "VSHL_T1" 0xef000400 0xef800f10 .simdOp q12 dna q16 q0 size20,
  pinst "VQSHL_T1" 0xef000410 0xef800f10 .simdOp q12 dna q16 q0 size20,
  pinst "VRSHL_T1" 0xef000500 0xef800f10 .simdOp q12 dna q16 q0 size20,
  pinst "VQRSHL_T1" 0xef000510 0xef800f10 .simdOp q12 dna q16 q0 size20,
  pinst "VMAX_int_T1" 0xef000600 0xef800f10 .simdOp q12 dna q16 q0 size20,
  pinst "VMIN_int_T1" 0xef000610 0xef800f10 .simdOp q12 dna q16 q0 size20,
  einst "VABD_int_T1" 0xef000700 0xef800f10 0x00300000 .simdOp q12 dna q16 q0 size20,
  pinst "VABA_T1" 0xef000710 0xef800f10 .simdOp q12 dna q16 q0 size20,
  pinst "VADD_int_T1" 0xef000800 0xff800f10 .simdOp q12 dna q16 q0 size20,
  pinst "VTST_T1" 0xef000800 0xff800f10 .simdOp q12 dna q16 q0 size20,
  einst "VMLA_T1" 0xef000900 0xff800f10 0x00300000 .simdOp q12 dna q16 q0 size20,
  einst "VMLS_T1" 0xff000900 0xff800f10 0x00300000 .simdOp q12 dna q16 q0 size20,
  einst "VMUL_int_T1" 0xef000910 0xff800f10 0x00300000 .simdOp q12 dna q16 q0 size20,
  einst "VMUL_poly_T1" 0xff000910 0xff800f10 0x00300000 .simdOp q12 dna q16 q0 size20,
  pinst "VPMAX_int_T1" 0xef000a00 0xff800f10 .simdOp d12 dna d16 d0 size20,
  pinst "VPMIN_int_T1" 0xff000a10 0xff800f10 .simdOp d12 dna d16 d0 size20,
  einst "VQDMULH_T1" 0xef000b00 0xff800f10 0x00300000 .simdOp q12 dna q16 q0 size20,
  einst "VPADD_T1" 0xef000b10 0xff800f10 0x00300000 .simdOp d12 dna d16 d0 size20,
  pinst "VMOV_imm_0_T1" 0xef800010 0xefb809b0 .simdOp q12 dna (dimmSimdexp 0 3),
  pinst "VMOV_imm_1_T1" 0xef800810 0xefb80db0 .simdOp q12 dna (dimmSimdexp 0 3),
  pinst "VMOV_imm_2_T1" 0xef800c10 0xefb80cb0 .simdOp q12 dna (dimmSimdexp 0 3),
  pinst "VMOV_imm_3_T1" 0xef800e10 0xefb80fb0 .simdOp q12 dna (dimmSimdexp 0 3),
  pinst "VORR_imm_T1" 0xef800110 0xefb809b0 .simdOp q12 dna q12 (dimmSimdexp 0 3),
  pinst "VORR_imm_0_T1" 0xef800910 0xefb80db0 .simdOp q12 dna q12 (dimmSimdexp 0 3),
  pinst "VMVN_imm_T1" 0xef800030 0xefb809b0 .simdOp q12 dna (dimmSimdexp 0 3),
  pinst "VMVN_imm_0_T1" 0xef800830 0xefb80db0 .simdOp q12 dna (dimmSimdexp 0 3),
  pinst "VMVN_imm_1_T1" 0xef800c30 0xefb80eb0 .simdOp q12 dna (dimmSimdexp 0 3),
  pinst "VBIC_imm_T1" 0xef800130 0xefb809b0 .simdOp q12 dna q12 (dimmSimdexp 0 3),
  pinst "VBIC_imm_0_T1" 0xef800930 0xefb80d30 .simdOp q12 dna q12 (dimmSimdexp 0 3),
  pinst "VSHR_T1" 0xef800010 0xef800f10 .simdOp q12 dna q0 (dimmMerge 7 7 16 21),
  pinst "VSRA_T1" 0xef800110 0xef800f10 .simdOp q12 dna q0 (dimmMerge 7 7 16 21),
  pinst "VRSHR_T1" 0xef800210 0xef800f10 .simdOp q12 dna q0 (dimmMerge 7 7 16 21),
  pinst "VRSRA_T1" 0xef800310 0xef800f10 .simdOp q12 dna q0 (dimmMerge 7 7 16 21),
  pinst "VSHL_imm_T1" 0xef800510 0xff800f10 .simdOp q12 dna q0 (dimmMerge 7 7 16 21),
  pinst "VQSHLU_imm_T1" 0xef800610 0xef800f10 .simdOp q12 dna q0 (dimmMerge 7 7 16 21),
  pinst "VQSHL_imm_T1" 0xef800710 0xef800f10 .simdOp q12 dna q0 (dimmMerge 7 7 16 21),
  pinst "VSHRN_T1" 0xef800810 0xef800fd0 .simdOp d12 dna x0 (dimm 16 21),
  pinst "VRSHRN_T1" 0xef800850 0xef800f50 .simdOp d12 dna x0 (dimm 16 21),
  pinst "VQSHRUN_T1" 0xff800810 0xff800f50 .simdOp d12 dna x0 (dimm 16 21),
  pinst "VQRSHRUN_T1" 0xff800850 0xff800f50 .simdOp d12 dna x0 (dimm 16 21),
  pinst "VQSHRN_T1" 0xef800910 0xef800f50 .simdOp d12 dna x0 (dimm 16 21),
  pinst "VQRSHRN_T1" 0xef800950 0xfe800f50 .simdOp d12 dna x0 (dimm 16 21),
  pinst "VMOVL_T1" 0xef800a10 0xef870fd0 .simdOp x12 dna d0 (dimm 19 21),
  inst "VSHLL_T1" 0xef800a10 0xef800f50 0x00000000 0x00380000 .simdOp x12 dna d0 (dimm 16 21),
  pinst "VCVT_fpfx_T1" 0xef800e10 0xef800e10 .noOp q12 dna q0,
  einst "VADDL_T1" 0xef800000 0xef800f50 0x00300000 .simdOp x12 dna d16 d0 size20,
  einst "VADDW_T1" 0xef800100 0xef800f50 0x00300000 .simdOp x12 dna x16 d0 size20,
  einst "VSUBL_T1" 0xef800200 0xef800f50 0x00300000 .simdOp x12 dna d16 d0 size20,
  einst "VSUBW_T1" 0xef800300 0xef800f50 0x00300000 .simdOp x12 dna x16 d0 size20,
  einst "VADDHN_T1" 0xef800400 0xff800f50 0x00300000 .simdOp d12 dna x16 x0 size20,
  einst "VABAL_T2" 0xef800500 0xef800f50 0x00300000 .simdOp x12 dna d16 d0 size20,
  einst "VSUBHN_T1" 0xef800600 0xff800f50 0x00300000 .simdOp d12 dna x16 x0 size20,
  einst "VABDL_int_T2" 0xef800700 0xef800f50 0x00300000 .simdOp x12 dna d16 d0 size20,
  einst "VMLAL_int_T2" 0xef800800 0xfe800f50 0x00300000 .simdOp x12 dna d16 d0 size20,
  einst "VMLSL_int_T2" 0xef800a00 0xfe800f50 0x00300000 .simdOp x12 dna d16 d0 size20,
  einst "VQDMLAL_T1" 0xef800900 0xff800f50 0x00300000 .simdOp x12 dna d16 d0 size20,
  einst "VQDMLSL_T1" 0xef800b00 0xff800f50 0x00300000 .simdOp x12 dna d16 d0 size20,
  einst "VMULL_int_T2" 0xef800c00 0xfe800f50 0x00300000 .simdOp x12 dna d16 d0 size20,
  einst "VQDMULL_T1" 0xef800d00 0xef800f50 0x00300000 .simdOp x12 dna d16 d0 size20,
  einst "VMULL_poly_T2" 0xef800e00 0xfe800f50 0x00300000 .simdOp x12 dna d16 d0 size20,
  einst "VMLA_sc_T1" 0xef800040 0xef800e50 0x00300000 .simdOp
    (fpqdr 12 15 22 24) dna (fpqdr 16 19 7 24) d0 size20,
  einst "VMLS_sc_T1" 0xef800440 0xef800e50 0x00300000 .simdOp
    (fpqdr 12 15 22 24) dna (fpqdr 16 19 7 24) d0 size20,
  einst "VMLAL_sc_T2" 0xef800240 0xef800f50 0x00300000 .simdOp x12 dna d16 d0 size20,
  einst "VMLSL_sc_T2" 0xef800640 0xef800f50 0x00300000 .noOp x12 dna d16 d0,
  pinst "VQDMLAL_sc_T2" 0xef800340 0xff800f50 .simdOp x12 dna d16 d0 size20,
  pinst "VQDMLSL_sc_T2" 0xef800740 0xff800f50 .simdOp x12 dna d16 d0 size20,
  pinst "VMUL_sc_T1" 0xef800840 0xef800e50 .simdOp
    (fpqdr 12 15 22 24) dna (fpqdr 16 19 7 24) d0 size20,
  pinst "VMULL_sc_T2" 0xf2800a40 0xfe800f50 .simdOp x12 dna d16 d0 size20,
  pinst "VQDMULL_sc_T2" 0xef800b40 0xff800f50 .simdOp x12 dna d16 d0 size20,
  pinst "VQDMULH_sc_T2" 0xef800c40 0xef800f50 .simdOp
    (fpqdr 12 15 22 24) dna (fpqdr 16 19 7 24) d0 size20,
  pinst "VQRDMULH_sc_T2" 0xef800d40 0xef800f50 .simdOp
    (fpqdr 12 15 22 24) dna (fpqdr 16 19 7 24) d0 size20,
  pinst "VEXT_T1" 0xefb00000 0xffb00010 .simdOp q12 dna q16 q0 (dimm 8 11),
  inst "STC2_T2" 0xfc000000 0xfe100000 0x00400000 0x01e00000 .noOp dna dna g16 imm8,
  inst "LDC2_lit_T2" 0xfc1f0000 0xfe1f0000 0x00400000 0x01e00000 .noOp dna dna imm8,
  inst "LDC2_imm_T2" 0xfc100000 0xfe100000 0x00400000 0x01e00000 .noOp dna dna g16 imm8,
  pinst "MCRR2_T2" 0xfc400000 0xfff00000 .noOp dna dna g12 g16,
  pinst "MRRC2_T2" 0xfc500000 0xfff00000 .noOp g12 g16,
  pinst "CDP2_T2" 0xfe000000 0xff000010 .noOp,
  pinst "MCR2_T2" 0xfe000010 0xff100010 .noOp dna dna g12,
  pinst "MRC2_T2" 0xfe100010 0xff100010 .noOp g12,
  pinst "VEOR_T1" 0xff000110 0xffb00f10 .simdOp q12 dna q16 q0,
  pinst "VBSL_T1" 0xff100110 0xffb00f10 .simdOp q12 dna q16 q0,
  pinst "VBIT_T1" 0xff200110 0xffb00f10 .simdOp q12 dna q16 q0,
  pinst "VBIF_T1" 0xff300110 0xffb00f10 .simdOp q12 dna q16 q0,
  pinst "VSUB_int_T1" 0xff000800 0xff800f10 .simdOp q12 dna q16 q0 size20,
  pinst "VCEQ_T1" 0xff000810 0xff800f10 .simdOp q12 dna q16 q0 size20,
  pinst "VQRDMULH_T1" 0xff000b00 0xff800f10 .simdOp q12 dna q16 q0 size20,
  einst "VPADD_fp_T1" 0xff000d00 0xffa00f10 0x00100000 .simdOp d12 dna d16 d0,
  pinst "VABD_fp_T1" 0xff200d00 0xffa00f10 .simdOp q12 dna q16 q0,
  pinst "VMUL_fp_T1" 0xff000d10 0xffa00f10 .simdOp q12 dna q16 q0,
  pinst "VCEQ_fp_T2" 0xef000e00 0xffa00f10 .simdOp q12 dna q16 q0,
  pinst "VCGE_fp_T2" 0xff000e00 0xffa00f10 .simdOp q12 dna q16 q0,
  pinst "VCGT_0_T2" 0xff200e00 0xffa00f10 .simdOp q12 dna q16 q0,
  pinst "VACGE_T1" 0xff000e10 0xffa00f10 .simdOp q12 dna q16 q0,
  pinst "VACGT_T1" 0xff200e10 0xffa00f10 .simdOp q12 dna q16 q0,
  pinst "VMAX_fp_T1" 0xef000f00 0xffa00f10 .simdOp q12 dna q16 q0,
  pinst "VMIN_fp_T1" 0xef200f00 0xffa00f10 .simdOp q12 dna q16 q0,
  pinst "VPMAX_fp_T1" 0xff000f00 0xffa00f10 .simdOp d12 dna d16 d0,
  pinst "VRECPS_T1" 0xef000f10 0xffa00f10 .simdOp q12 dna q16 q0,
  pinst "VRSQRTS_T1" 0xef200f10 0xffa00f10 .simdOp q12 dna q16 q0,
  pinst "VPMIN_fp_T1" 0xff200f00 0xffa00f10 .simdOp d12 dna d16 d0,
  pinst "VSRI_T1" 0xff800410 0xff800f10 .simdOp q12 dna q0 (dimmMerge 7 7 16 21),
  pinst "VSLI_T1" 0xff800510 0xff800f10 .simdOp q12 dna q0 (dimmMerge 7 7 16 21),
  einst "VRADDHN_T1" 0xff800400 0xff800f50 0x00300000 .simdOp d12 dna x16 x0 size20,
  einst "VRSUBHN_T1" 0xff800600 0xff800f50 0x00300000 .simdOp d12 dna x16 x0 size20,
  pinst "VREV64_T1" 0xffb00000 0xffb30f90 .simdOp q12 dna q0 size18,
  pinst "VREV32_T1" 0xffb00080 0xffb30f90 .simdOp q12 dna q0 size18,
  pinst "VREV16_T1" 0xffb00100 0xffb30f90 .simdOp q12 dna q0 size18,
  einst "VPADDL_T1" 0xffb00200 0xffb30f10 0x000c0000 .simdOp q12 dna q0 size18,
  einst "VCLS_T1" 0xffb00400 0xffb30f90 0x000c0000 .simdOp q12 dna q0 size18,
  einst "VCLZ_T1" 0xffb00480 0xffb30f90 0x000c0000 .simdOp q12 dna q0 size18,
  pinst "VCNT_T1" 0xffb00500 0xffbf0f90 .simdOp q12 dna q0 size18,
  pinst "VMVN_T1" 0xffb00580 0xffb30f90 .simdOp q12 dna q0 size18,
  pinst "VPADAL_T1" 0xffb00600 0xffb30f10 .simdOp q12 dna q0 size18,
  pinst "VQABS_T1" 0xffb00700 0xffb30f90 .simdOp q12 dna q0 size18,
  pinst "VQNEG_T1" 0xffb00780 0xffb30f90 .simdOp q12 dna q0 size18,
  pinst "VCGT_imm_T1" 0xffb10000 0xffb30b90 .simdOp q12 dna q0 size18,
  pinst "VCGE_imm_T1" 0xffb10080 0xffb30b90 .simdOp q12 dna q0 size18,
  pinst "VCEQ_imm_T1" 0xffb10100 0xffb30b90 .simdOp q12 dna q0 size18,
  pinst "VCLE_imm_T1" 0xffb10180 0xffb30b90 .simdOp q12 dna q0 size18,
  pinst "VCLT_imm_T1" 0xffb10200 0xffb30b90 .simdOp q12 dna q0 size18,
  pinst "VABS_T1" 0xffb10300 0xffb30b90 .simdOp f12 dna f0 size18,
  pinst "VNEG_T1" 0xffb10380 0xffb30b90 .simdOp q12 dna q0 size18,
  pinst "VSWP_T1" 0xffb20000 0xffb30f90 .simdOp q12 dna q0 size18,
  pinst "VTRN_T1" 0xffb20080 0xffb30f90 .simdOp q12 dna q0 size18,
  pinst "VUZP_T1" 0xffb20100 0xffb30f90 .simdOp q12 dna q0 size18,
  pinst "VZIP_T1" 0xffb20180 0xffb30f90 .simdOp q12 dna q0 size18,
  pinst "VMOVN_T1" 0xffb20200 0xffb30fd0 .simdOp d12 dna x0 size18,
  pinst "VQMOVUN_T1" 0xffb20240 0xffb30fd0 .simdOp d12 dna x0 size18,
  pinst "VQMOVN_T1" 0xffb20280 0xffb30f90 .simdOp d12 dna x0 size18,
  einst "VSHLL_0_T2" 0xffb20300 0xffb30fd0 0x000c0000 .simdOp x12 dna d0 size18,
  pinst "VCVT_hpsp_T1" 0xffb20600 0xffb30fd0 .simdOp d12 dna x0 size18,
  pinst "VCVT_sphp_T1" 0xffb20700 0xffb30fd0 .noOp x12 dna d0,
  pinst "VRECPE_T1" 0xffb30400 0xffb30e90 .simdOp q12 dna q0 size18,
  pinst "VRSQRTE_T1" 0xffb30480 0xffb30e80 .simdOp q12 dna q0 size18,
  pinst "VCVT_fpint_T1" 0xffb30600 0xffb30e10 .simdOp q12 dna q0 size18,
  pinst "VTBL_T1" 0xffb00800 0xffb00c50 .simdOp d12 dna d16 d0,
  pinst "VTBX_T1" 0xffb00840 0xffb00c50 .simdOp d12 dna d16 d0,
  pinst "VDUP_sc_T1" 0xffb00c00 0xffb00f90 .simdOp q12 dna d0 (dimm 16 19),
  pinst "VDUP_T1" 0xee800b10 0xff900f50 .simdOp q12 dna d0 (dimmMerge 5 5 22 22),
  tail "T32_EC_END"]

/-- `F0`: data processing (modified immediate). -/
def thumb32F0 : List InstrDesc := [
  connect "T32_F0",
  einst "AND_imm_T1" 0xf0000000 0xfbe08000 0x00100f00 .logOp g8 dna g16 (dimmThumbexp 0 7 8),
  pinst "TST_imm_T1" 0xf0100f00 0xfbf08f00 .testOp dna dna g16 (dimmThumbexp 0 7 8),
  pinst "BIC_imm_T1" 0xf0200000 0xfbe08000 .logOp g8 dna g16 (dimmThumbexp 0 7 8),
  einst "ORR_imm_T1" 0xf0400000 0xfbe08000 0x000f0000 .logOp g8 dna g16 (dimmThumbexp 0 7 8),
  pinst "MOV_imm_T2" 0xf04f0000 0xfbef8000 .movOp g8 dna (dimmThumbexp 0 7 8),
  einst "ORN_imm_T1" 0xf0600000 0xfbe08000 0x000f0000 .logOp g8 dna g16 (dimmThumbexp 0 7 8),
  pinst "MVN_imm_T1" 0xf06f0000 0xfbef8000 .movOp g8 dna (dimmThumbexp 0 7 8),
  einst "EOR_imm_T1" 0xf0800000 0xfbe08000 0x00100f00 .logOp g8 dna g16 (dimmThumbexp 0 7 8),
  pinst "TEQ_imm_T1" 0xf0900f00 0xfbf08f00 .testOp dna dna g16 (dimmThumbexp 0 7 8),
  einst "ADD_imm_T3" 0xf1000000 0xfbe08000 0x00100f00 .aluOp g8 dna g16 (dimmThumbexp 0 7 8),
  einst "ADD_sp_imm_T3" 0xf10d0000 0xfbef8000 0x00100f00 .aluOp
    g8 dna (dgprConst 13) (dimmThumbexp 0 7 8),
  pinst "CMN_imm_T1" 0xf1100f00 0xfbf08f00 .cmpOp dna dna g16 (dimmThumbexp 0 7 8),
  pinst "ADC_imm_T1" 0xf1400000 0xfbe08000 .aluOp g8 dna g16 (dimmThumbexp 0 7 8),
  pinst "SBC_imm_T1" 0xf1600000 0xfbe08000 .aluOp g8 dna g16 (dimmThumbexp 0 7 8),
  einst "SUB_imm_T3" 0xf1a00000 0xfbe08000 0x00000f00 .aluOp g8 dna g16 (dimmThumbexp 0 7 8),
  einst "SUB_sp_imm_T2" 0xf1ad0000 0xfbef8000 0x00100f00 .aluOp g8 dna g16 (dimmThumbexp 0 7 8),
  pinst "CMP_imm_T2" 0xf1b00f00 0xfbf08f00 .cmpOp dna dna g16 (dimmThumbexp 0 7 8),
  pinst "RSB_imm_T2" 0xf1c00000 0xfbe08000 .aluOp g8 dna g16 (dimmThumbexp 0 7 8),
  tail "T32_F0_END"]

/-- `F2`: data processing (plain binary immediate). -/
def thumb32F2 : List InstrDesc := [
  connect "T32_F2",
  einst "ADD_imm_T4" 0xf2000000 0xfbf08000 0x000d0000 .aluOp g8 dna g16 (dimmZeroExtendI 0 7 8 26),
  pinst "ADD_sp_imm_T4" 0xf20d0000 0xfbff8000 .aluOp
    g8 dna (dgprConst 13) (dimmZeroExtendI 0 7 8 26),
  pinst "ADR_T3" 0xf20f0000 0xfbff8000 .miscOp g8 dna g16 (dimmZeroExtendI 0 7 8 26),
  pinst "MOV_imm_T3" 0xf2400000 0xfbf08000 .movOp g8 dna (dimmMerge 0 7 12 14),
  einst "SUB_imm_T4" 0xf2a00000 0xfbf08000 0x000d0000 .aluOp g8 dna g16 (dimmZeroExtendI 0 7 8 26),
  pinst "SUB_sp_imm_T3" 0xf2ad0000 0xfbff8000 .aluOp g8 dna g16 (dimmZeroExtendI 0 7 8 26),
  pinst "ADR_T2" 0xf2af0000 0xfbff8000 .miscOp g8 dna g16 (dimmZeroExtendI 0 7 8 26),
  pinst "MOVT_T1" 0xf2c00000 0xfbf08000 .miscOp g8 dna (dimmMerge 0 7 12 14),
  inst "SSAT_T1" 0xf3000000 0xffd08020 0x00200000 0x002070c0 .miscOp
    g8 dna (dimm 0 4) g16 (dshftimmT 6 7 20 21),
  pinst "SSAT16_T1" 0xf3200000 0xfbf0f0c0 .miscOp g8 dna (dimm 0 3) g16,
  pinst "SBFX_T1" 0xf3400000 0xfff08020 .bfOp g8 dna g16 (dimmMerge 12 14 6 7) (dimm 0 4),
  pinst "BFC_T1" 0xf36f0000 0xffff8020 .bfOp g8 dna (dimm 0 4) (dimmMerge 12 14 6 7),
  einst "BFI_T1" 0xf3600000 0xfff08020 0x000f0000 .bfOp g8 dna (dimm 0 4) (dimmMerge 12 14 6 7) g16,
  inst "USAT_T1" 0xf3800000 0xffd08020 0x00200000 0x002070c0 .extOp
    g8 dna (dimm 0 4) g16 (dshftimmT 6 7 20 21),
  pinst "USAT16_T1" 0xf3a00000 0xfff0f0f0 .extOp g8 dna (dimm 0 3) g16,
  pinst "UBFX_T1" 0xf3c00000 0xfff08020 .bfOp g8 dna g16 (dimmMerge 12 14 6 7) (dimm 0 4),
  pinst "UDIV_T1" 0xfbb0f0f0 0xfff0f0f0 .noOp g8 dna g16 g0,
  tail "T32_F2_END"]

/-- `F08`: branches and miscellaneous control. -/
def thumb32F08 : List InstrDesc := [
  connect "T32_F08",
  einst "B_T3" 0xf0008000 0xf800d000 0x03800000 .jmpOp dna dna (dimmMerge 0 10 16 21) (dcond 22 25),
  pinst "MSR_a_T1" 0xf3808000 0xfff0f300 .srOp dna dna g16 (dimm 10 11),
  pinst "MSR_s_T1" 0xf3408000 0xffe0d000 .noOp dna dna g16 (dimm 10 11),
  inst "CPS_T2" 0xf3af8000 0xfffff800 0x00000000 0x00000700 .noOp,
  pinst "NOP_T2" 0xf3af8000 0xffffffff .emptyOp,
  pinst "YIELD_T2" 0xf3af8001 0xffffffff .emptyOp,
  pinst "WFE_T2" 0xf3af8002 0xffffffff .emptyOp,
  pinst "WFI_T2" 0xf3af8003 0xffffffff .emptyOp,
  pinst "SEV_T2" 0xf3af8004 0xffffffff .emptyOp,
  pinst "DBG_T1" 0xf3af80f0 0xfffffff0 .emptyOp,
  pinst "LEAVEX_T1" 0xf3bf8f0f 0xffffffff .noOp,
  pinst "ENTERX_T1" 0xf3bf8f1f 0xffffffff .noOp,
  pinst "CLREX_T1" 0xf3bf8f2f 0xffffffff .emptyOp,
  pinst "DSB_T1" 0xf3bf8f40 0xfffffff0 .emptyOp,
  pinst "DMB_T1" 0xf3bf8f50 0xfffffff0 .emptyOp,
  pinst "ISB_T1" 0xf3bf8f60 0xfffffff0 .emptyOp,
  pinst "BXJ_reg_T1" 0xf3c08f00 0xfff0ffff .noOp dna dna g16,
  pinst "SUBS_T1" 0xf3de8f00 0xffffff00 .noOp (dgprConst 15) dna (dgprConst 14) imm8,
  pinst "MRS_a_T1" 0xf3ef8000 0xfffff0ff .srOp g8,
  pinst "MRS_s_T1" 0xf3ef8000 0xffeff0ff .noOp g8,
  pinst "B_T4" 0xf0009000 0xf800d000 .jmpOp dna dna (dimmMerge 0 10 16 25),
  pinst "BL_imm_T1" 0xf000d000 0xf800d000 .jmpOp dna dna (dimmMerge 16 29 0 10),
  pinst "BLX_imm_T2" 0xf000c000 0xf800d000 .jmpOp dna dna (dimmMerge 16 29 1 10),
  tail "T32_F08_END"]

/-- `F8`: single loads and stores, preloads, SIMD element loads and stores. -/
def thumb32F8 : List InstrDesc := [
  connect "T32_F8",
  einst "STRB_imm_T2" 0xf8800000 0xfff00000 0x000f0000 .stOp dna dna g12 g16 imm12,
  einst "STRB_imm_T3" 0xf8000800 0xfff00800 0x000f0000 .stOp dna dna g12 g16 imm8,
  einst "STRBT_T1" 0xf8000e00 0xfff00f00 0x000f0000 .stOp dna dna g12 g16 imm8,
  einst "STRB_reg_T2" 0xf8000000 0xfff00fc0 0x000f0000 .stOp dna dna g12 g16 g0 (dshftimm 4 5 6 7),
  einst "STRH_imm_T2" 0xf8a00000 0xfff00000 0x000f0000 .stOp dna dna g12 g16 imm12,
  einst "STRH_imm_T3" 0xf8200800 0xfff00800 0x000f0000 .stOp dna dna g12 g16 imm8,
  einst "STRHT_T1" 0xf8200e00 0xfff00f00 0x000f0000 .stOp dna dna g12 g16 imm8,
  einst "STRH_reg_T2" 0xf8200000 0xfff00fc0 0x000f0000 .stOp dna dna g12 g16 g0 (dshftimm 4 5 6 7),
  einst "STR_imm_T3" 0xf8c00000 0xfff00000 0x000f0000 .stOp dna dna g12 g16 imm12,
  einst "STR_imm_T4" 0xf8400800 0xfff00800 0x000f0000 .stOp dna dna g12 g16 imm8,
  einst "STRT_T1" 0xf8400e00 0xfff00f00 0x000f0000 .stOp dna dna g12 g16 imm8,
  einst "STR_reg_T2" 0xf8400000 0xfff00fc0 0x000f0000 .stOp dna dna g12 g16 g0 (dshftimm 4 5 6 7),
  pinst "POP_T3" 0xf85d0b04 0xffff0fff .popOp g12 dna g16 imm8,
  pinst "VST1_m1e_T1" 0xf9000200 0xffb00f00 .simdOp dna dna d12 g16 g0 (dimm 4 11),
  pinst "VST1_m1e_0_T1" 0xf9000600 0xffb00e00 .simdOp dna dna d12 g16 g0 (dimm 4 11),
  pinst "VST1_m1e_1_T1" 0xf9000a00 0xffb00f00 .simdOp dna dna d12 g16 g0 (dimm 4 11),
  pinst "VST2_m2e_T1" 0xf9000300 0xffb00f00 .simdOp dna dna d12 g16 g0 (dimm 4 11),
  pinst "VST2_m2e_0_T1" 0xf9000800 0xffb00e00 .simdOp dna dna d12 g16 g0 (dimm 4 11),
  pinst "VST3_m3e_T1" 0xf9000400 0xffb00e00 .simdOp dna dna d12 g16 g0 (dimm 4 11),
  pinst "VST4_T1" 0xf9000000 0xffb00e00 .simdOp dna dna d12 g16 g0 (dimm 4 11),
  pinst "VST1_1e1l_T1" 0xf9800000 0xffb00b00 .simdOp dna dna d12 g16 g0 (dimm 4 11),
  pinst "VST1_1e1l_0_T1" 0xf9800800 0xffb00f00 .simdOp dna dna d12 g16 g0 (dimm 4 11),
  pinst "VST2_2e1l_T1" 0xf9800100 0xffb00b00 .simdOp dna dna d12 g16 g0 (dimm 4 11),
  pinst "VST2_2e1l_0_T1" 0xf9800900 0xffb00f00 .simdOp dna dna d12 g16 g0 (dimm 4 11),
  pinst "VST3_3e1l_T1" 0xf9800200 0xffb00b00 .simdOp dna dna d12 g16 g0 (dimm 4 11),
  pinst "VST3_3e1l_0_T1" 0xf9800a00 0xffb00f00 .simdOp dna dna d12 g16 g0 (dimm 4 11),
  pinst "VST4_4e1l_T1" 0xf9800300 0xffb00b00 .simdOp dna dna d12 g16 g0 (dimm 4 11),
  pinst "VST4_4e1l_0_T1" 0xf9800b00 0xffb00f00 .simdOp dna dna d12 g16 g0 (dimm 4 11),
  pinst "VLD1_m1e_T1" 0xf9200200 0xffb00f00 .simdOp d12 dna g16 g0 (dimm 4 11),
  pinst "VLD1_m1e_0_T1" 0xf9200600 0xffb00e00 .simdOp d12 dna g16 g0 (dimm 4 11),
  pinst "VLD1_m1e_1_T1" 0xf9200a00 0xffb00f00 .simdOp d12 dna g16 g0 (dimm 4 11),
  pinst "VLD2_m2e_T1" 0xf9200300 0xffb00f00 .simdOp d12 dna g16 g0 (dimm 4 11),
  pinst "VLD2_m2e_0_T1" 0xf9200800 0xffb00e00 .simdOp d12 dna g16 g0 (dimm 4 11),
  pinst "VLD3_m3e_T1" 0xf9200400 0xffb00e00 .simdOp d12 dna g16 g0 (dimm 4 11),
  pinst "VLD4_m4e_T1" 0xf9200000 0xffb00e00 .simdOp d12 dna g16 g0 (dimm 4 11),
  pinst "VLD1_1e1l_T1" 0xf9a00000 0xffb00b00 .simdOp d12 dna g16 g0 (dimm 4 11),
  pinst "VLD1_1e1l_0_T1" 0xf9a00800 0xffb00f00 .simdOp d12 dna g16 g0 (dimm 4 11),
  pinst "VLD1_1eal_T1" 0xf9a00c00 0xffb00f00 .simdOp d12 dna g16 g0 (dimm 4 7),
  pinst "VLD2_2e1l_T1" 0xf9a00100 0xffb00b00 .simdOp d12 dna g16 g0 (dimm 4 11),
  pinst "VLD2_2e1l_0_T1" 0xf9a00900 0xffb00f00 .simdOp d12 dna g16 g0 (dimm 4 11),
  pinst "VLD2_2eal_T1" 0xf9a00d00 0xffb00f00 .simdOp d12 dna g16 g0 (dimm 4 7),
  pinst "VLD3_3e1l_T1" 0xf9a00200 0xffb00b00 .simdOp d12 dna g16 g0 (dimm 4 11),
  pinst "VLD3_3e1l_0_T1" 0xf9a00a00 0xffb00f00 .simdOp d12 dna g16 g0 (dimm 4 11),
  pinst "VLD3_3eal_T1" 0xf9a00e00 0xffb00f00 .simdOp d12 dna g16 g0 (dimm 4 7),
  pinst "VLD4_4e1l_T1" 0xf9a00300 0xffb00b00 .simdOp d12 dna g16 g0 (dimm 4 11),
  pinst "VLD4_4e1l_0_T1" 0xf9a00b00 0xffb00f00 .simdOp d12 dna g16 g0 (dimm 4 11),
  pinst "VLD4_4eal_T1" 0xf9a00f00 0xffb00f00 .simdOp d12 dna g16 g0 (dimm 4 7),
  pinst "PLD_lit_T1" 0xf81ff000 0xff7ff000 .emptyOp dna dna imm12,
  einst "PLD_imm_T1" 0xf990f000 0xfff0f000 0x000f0000 .emptyOp dna dna g16 imm12,
  einst "PLD_imm_T2" 0xf910fc00 0xfff0ff00 0x000f0000 .emptyOp dna dna g16 imm8,
  einst "PLD_reg_T1" 0xf810f000 0xffd0ffc0 0x000f0000 .emptyOp dna dna g16 g0 (dshftimm 4 5 6 7),
  einst "PLDW_imm_T1" 0xf890f000 0xffd0f000 0x000f0000 .emptyOp dna dna g16 imm12,
  einst "PLDW_imm_T2" 0xf810fc00 0xffd0ff00 0x000f0000 .emptyOp dna dna g16 imm8,
  einst "PLDW_reg_T1" 0xf830f000 0xfff0ffc0 0x000f0000 .emptyOp dna dna g16 g0 (dshftimm 4 5 6 7),
  einst "PLI_imm_T1" 0xf990f000 0xfff0f000 0x000f0000 .emptyOp dna dna g16 imm12,
  einst "PLI_imm_T2" 0xf910fc00 0xfff0ff00 0x000f0000 .emptyOp dna dna g16 imm8,
  pinst "PLI_lit_T3" 0xf91ff000 0xff7ff000 .emptyOp dna dna g16 imm12,
  einst "PLI_reg_T1" 0xf910f000 0xfff0ffc0 0x000f0000 .emptyOp
    dna dna g16 (dimm 4 5) (dshftimm 4 5 6 7),
  einst "LDRB_lit_T1" 0xf81f0000 0xff7f0000 0x0000f000 .ldOp g12 dna g16 imm12,
  einst "LDRB_imm_T2" 0xf8900000 0xfff00000 0x0000f000 .ldOp g12 dna g16 imm12,
  pinst "LDRB_imm_T3" 0xf8100800 0xfff00800 .ldOp g12 dna g16 imm8,
  einst "LDRBT_T1" 0xf8100e00 0xfff00f00 0x000f0000 .ldOp g12 dna g16 imm12,
  einst "LDRB_reg_T2" 0xf8100000 0xfff00fc0 0x0000f000 .ldOp g12 dna g16 g0 (dshftimm 4 5 6 7),
  einst "LDRSB_lit_T1" 0xf91f0000 0xff7f0000 0x0000f000 .ldOp g12 dna g16 imm12,
  einst "LDRSB_imm_T1" 0xf9900000 0xfff00000 0x0000f000 .ldOp g12 dna g16 imm12,
  inst "LDRSB_imm_T2" 0xf9100800 0xfff00800 0x0000f400 0x0000f700 .ldOp g12 dna g16 imm8,
  einst "LDRSBT_T1" 0xf9100e00 0xfff00f00 0x0000f000 .ldOp g12 dna g16 imm8,
  einst "LDRSB_reg_T2" 0xf9100000 0xfff00fc0 0x0000f000 .ldOp g12 dna g16 g0 (dshftimm 4 5 6 7),
  einst "LDRH_lit_T1" 0xf83f0000 0xff7f0000 0x0000f000 .ldOp g12 dna g16 imm12,
  einst "LDRH_imm_T2" 0xf8b00000 0xfff00000 0x000f0000 .ldOp g12 dna g16 imm12,
  einst "LDRHT_T1" 0xf8300e00 0xfff00f00 0x000f0000 .ldOp g12 dna g16 imm8,
  einst "LDRH_imm_T3" 0xf8300800 0xfff00800 0x0000fc00 .ldOp g12 dna g16 imm8,
  einst "LDRH_reg_T2" 0xf8300000 0xfff00fc0 0x000f0000 .ldOp g12 dna g16 g0 (dshftimm 4 5 6 7),
  pinst "LDRSH_lit_T1" 0xf93f0000 0xff7f0000 .ldOp g12 dna g16 imm12,
  einst "LDRSH_imm_T1" 0xf9b00000 0xfff00000 0x000f0000 .ldOp g12 dna g16 imm12,
  einst "LDRSH_imm_T2" 0xf9300800 0xfff00800 0x0000f000 .ldOp g12 dna g16 imm8,
  einst "LDRSHT_T1" 0xf9300e00 0xfff00f00 0x000f0000 .ldOp g12 dna g16 imm8,
  einst "LDRSH_reg_T2" 0xf9300000 0xfff00fc0 0x000f0000 .ldOp g12 dna g16 g0 (dshftimm 4 5 6 7),
  einst "LDRT_T1" 0xf8500e00 0xfff00f00 0x000f0000 .ldOp g12 dna g16 imm8,
  einst "LDR_imm_T3" 0xf8d00000 0xfff00000 0x000f0000 .ldOp g12 dna g16 imm12,
  einst "LDR_imm_T4" 0xf8500800 0xfff00800 0x000f0000 .ldOp g12 dna g16 imm8,
  einst "LDR_reg_T2" 0xf8500000 0xfff00fc0 0x000f0000 .ldOp g12 dna g16 g0 (dshftimm 4 5 6 7),
  pinst "LDR_lit_T2" 0xf85f0000 0xff7f0000 .ldOp g12 dna g16 imm12,
  tail "T32_F8_END"]

/-- `FA`: data processing (register), parallel arithmetic. -/
def thumb32FA : List InstrDesc := [
  connect "T32_FA",
  pinst "LSL_reg_T2" 0xfa00f000 0xffe0f0f0 .movOp g8 dna g16 (dshftgpr 0 3 21 22),
  pinst "LSR_reg_T2" 0xfa20f000 0xffe0f0f0 .movOp g8 dna g16 (dshftgpr 0 3 21 22),
  pinst "ASR_reg_T2" 0xfa40f000 0xffe0f0f0 .movOp g8 dna g16 (dshftgpr 0 3 21 22),
  pinst "ROR_reg_T2" 0xfa60f000 0xffe0f0f0 .movOp g8 dna g16 (dshftgpr 0 3 21 22),
  einst "SXTAH_T1" 0xfa00f080 0xfff0f080 0x000f0000 .extOp g8 dna (drotategpr 0 3 4 5) g16,
  pinst "SXTH_T2" 0xfa0ff080 0xfffff080 .extOp g8 dna (drotategpr 0 3 4 5),
  einst "UXTAH_T1" 0xfa10f080 0xfff0f080 0x000f0000 .extOp g8 dna (drotategpr 0 3 4 5) g16,
  pinst "UXTH_T2" 0xfa1ff080 0xfffff080 .extOp g8 dna (drotategpr 0 3 4 5),
  einst "SXTAB16_T1" 0xfa20f080 0xfff0f080 0x000f0000 .extOp g8 dna (drotategpr 0 3 4 5) g16,
  pinst "SXTB16_T1" 0xfa2ff080 0xfffff080 .extOp g8 dna (drotategpr 0 3 4 5),
  einst "UXTAB16_T1" 0xfa30f080 0xfff0f080 0x000f0000 .extOp g8 dna (drotategpr 0 3 4 5) g16,
  pinst "UXTB16_T1" 0xfa3ff080 0xfffff080 .extOp g8 dna (drotategpr 0 3 4 5),
  einst "SXTAB_T1" 0xfa40f080 0xfff0f080 0x000f0000 .extOp g8 dna (drotategpr 0 3 4 5) g16,
  pinst "SXTB_T2" 0xfa4ff080 0xfffff080 .extOp g8 dna (drotategpr 0 3 4 5),
  einst "UXTAB_T1" 0xfa50f080 0xfff0f080 0x000f0000 .extOp g8 dna (drotategpr 0 3 4 5) g16,
  pinst "UXTB_T2" 0xfa5ff080 0xfffff080 .extOp g8 dna (drotategpr 0 3 4 5),
  pinst "SADD16_T1" 0xfa90f000 0xfff0f0f0 .sByteAluOp g8 dna g16 g0,
  pinst "SASX_T1" 0xfaa0f000 0xfff0f0f0 .sByteAluOp g8 dna g16 g0,
  pinst "SSAX_T1" 0xfae0f000 0xfff0f0f0 .sByteAluOp g8 dna g16 g0,
  pinst "SSUB16_T1" 0xfad0f000 0xfff0f0f0 .sByteAluOp g8 dna g16 g0,
  pinst "SADD8_T1" 0xfa80f000 0xfff0f0f0 .sByteAluOp g8 dna g16 g0,
  pinst "SSUB8_T1" 0xfac0f000 0xfff0f0f0 .sByteAluOp g8 dna g16 g0,
  pinst "QADD16_T1" 0xfa90f010 0xfff0f0f0 .byteAluOp g8 dna g16 g0,
  pinst "QASX_T1" 0xfaa0f010 0xfff0f0f0 .byteAluOp g8 dna g16 g0,
  pinst "QSAX_T1" 0xfae0f010 0xfff0f0f0 .byteAluOp g8 dna g16 g0,
  pinst "QSUB16_T1" 0xfad0f010 0xfff0f0f0 .byteAluOp g8 dna g16 g0,
  pinst "QADD8_T1" 0xfa80f010 0xfff0f0f0 .byteAluOp g8 dna g16 g0,
  pinst "QSUB8_T1" 0xfac0f010 0xfff0f0f0 .byteAluOp g8 dna g16 g0,
  pinst "SHADD16_T1" 0xfa90f020 0xfff0f0f0 .sByteAluOp g8 dna g16 g0,
  pinst "SHASX_T1" 0xfaa0f020 0xfff0f0f0 .sByteAluOp g8 dna g16 g0,
  pinst "SHSAX_T1" 0xfae0f020 0xfff0f0f0 .sByteAluOp g8 dna g16 g0,
  pinst "SHSUB16_T1" 0xfad0f020 0xfff0f0f0 .sByteAluOp g8 dna g16 g0,
  pinst "SHADD8_T1" 0xfa80f020 0xfff0f0f0 .sByteAluOp g8 dna g16 g0,
  pinst "SHSUB8_T1" 0xfac0f020 0xfff0f0f0 .sByteAluOp g8 dna g16 g0,
  pinst "UADD16_T1" 0xfa90f040 0xfff0f0f0 .byteAluOp g8 dna g16 g0,
  pinst "UASX_T1" 0xfaa0f040 0xfff0f0f0 .byteAluOp g8 dna g16 g0,
  pinst "USAX_T1" 0xfae0f040 0xfff0f0f0 .byteAluOp g8 dna g16 g0,
  pinst "USUB16_T1" 0xfad0f040 0xfff0f0f0 .byteAluOp g8 dna g16 g0,
  pinst "UADD8_T1" 0xfa80f040 0xfff0f0f0 .byteAluOp g8 dna g16 g0,
  pinst "USUB8_T1" 0xfac0f040 0xfff0f0f0 .byteAluOp g8 dna g16 g0,
  pinst "UQADD16_T1" 0xfa90f050 0xfff0f0f0 .byteAluOp g8 dna g16 g0,
  pinst "UQASX_T1" 0xfaa0f050 0xfff0f0f0 .byteAluOp g8 dna g16 g0,
  pinst "UQSAX_T1" 0xfae0f050 0xfff0f0f0 .byteAluOp g8 dna g16 g0,
  pinst "UQSUB16_T1" 0xfad0f050 0xfff0f0f0 .byteAluOp g8 dna g16 g0,
  pinst "UQADD8_T1" 0xfa80f050 0xfff0f0f0 .byteAluOp g8 dna g16 g0,
  pinst "UQSUB8_T1" 0xfac0f050 0xfff0f0f0 .byteAluOp g8 dna g16 g0,
  pinst "UHADD16_T1" 0xfa90f060 0xfff0f0f0 .byteAluOp g8 dna g16 g0,
  pinst "UHASX_T1" 0xfaa0f060 0xfff0f0f0 .byteAluOp g8 dna g16 g0,
  pinst "UHSAX_T1" 0xfae0f060 0xfff0f0f0 .byteAluOp g8 dna g16 g0,
  pinst "UHSUB16_T1" 0xfad0f060 0xfff0f0f0 .byteAluOp g8 dna g16 g0,
  pinst "UHADD8_T1" 0xfa80f060 0xfff0f0f0 .byteAluOp g8 dna g16 g0,
  pinst "UHSUB8_T1" 0xfac0f060 0xfff0f0f0 .byteAluOp g8 dna g16 g0,
  pinst "QADD_T1" 0xfa80f080 0xfff0f0f0 .byteAluOp g8 dna g0 g16,
  pinst "QDADD_T1" 0xfa80f090 0xfff0f0f0 .byteAluOp g8 dna g16 g0,
  pinst "QSUB_T1" 0xfa80f0a0 0xfff0f0f0 .byteAluOp g8 dna g16 g0,
  pinst "QDSUB_T1" 0xfa80f0b0 0xfff0f0f0 .byteAluOp g8 dna g16 g0,
  pinst "REV_T2" 0xfa90f080 0xfff0f0f0 .reverseOp g8 dna g0,
  pinst "REV16_T2" 0xfa90f090 0xfff0f0f0 .reverseOp g8 dna g0,
  pinst "RBIT_T1" 0xfa90f0a0 0xfff0f0f0 .reverseOp g8 dna g0,
  pinst "REVSH_T2" 0xfa90f0b0 0xfff0f0f0 .reverseOp g8 dna g0,
  pinst "SEL_T1" 0xfaa0f080 0xfff0f0f0 .byteAluOp g8 dna g16 g0,
  pinst "CLZ_T1" 0xfab0f080 0xfff0f0f0 .miscOp g8 dna g0,
  tail "T32_FA_END"]

/-- `FB`: multiplies. -/
def thumb32FB : List InstrDesc := [
  connect "T32_FB",
  pinst "MUL_T2" 0xfb00f000 0xfff0f0f0 .mul32Op g8 dna g16 g0,
  einst "MLA_T1" 0xfb000000 0xfff000f0 0x0000f000 .mul32Op g8 dna g16 g0 g12,
  pinst "MLS_T1" 0xfb000010 0xfff000f0 .mul32Op g8 dna g16 g0 g12,
  einst "SMLABB_T1" 0xfb100000 0xfff000c0 0x0000f000 .smulOp g8 dna g16 g0 g12,
  pinst "SMULBB_T1" 0xfb10f000 0xfff0f0c0 .smulOp g8 dna g16 g0,
  einst "SMLAD_T1" 0xfb200000 0xfff000e0 0x0000f000 .smuldOp g8 dna g16 g0 g12,
  pinst "SMUAD_T1" 0xfb20f000 0xfff0f0e0 .smuldOp g8 dna g16 g0,
  einst "SMLAWB_T1" 0xfb300000 0xfff000e0 0x0000f000 .smulOp g8 dna g16 g0 g12,
  pinst "SMULWB_T1" 0xfb30f000 0xfff0f0e0 .smulOp g8 dna g16 g0,
  einst "SMLSD_T1" 0xfb400000 0xfff000e0 0x0000f000 .smuldOp g8 dna g16 g0 g12,
  pinst "SMUSD_T1" 0xfb40f000 0xfff0f0e0 .smuldOp g8 dna g16 g0,
  einst "SMMLA_T1" 0xfb500000 0xfff000e0 0x0000f000 .smulOp g8 dna g16 g0 g12,
  pinst "SMMUL_T1" 0xfb50f000 0xfff0f0e0 .smulOp g8 dna g16 g0,
  pinst "SMMLS_T1" 0xfb600000 0xfff000e0 .smulOp g8 dna g16 g0 g12,
  pinst "USAD8_T1" 0xfb70f000 0xfff0f0f0 .byteAluOp g8 dna g16 g0,
  einst "USADA8_T1" 0xfb700000 0xfff000f0 0x0000f000 .byteAluOp g8 dna g16 g0 g12,
  pinst "SMULL_T1" 0xfb800000 0xfff000f0 .smulOp g8 g12 g16 g0,
  pinst "SDIV_T1" 0xfb90f0f0 0xfff0f0f0 .noOp g8 dna g16 g0,
  pinst "UMULL_T1" 0xfba00000 0xfff000f0 .umulOp g8 g12 g16 g0,
  pinst "SMLAL_T1" 0xfbc00000 0xfff000f0 .smulOp (dgprRw 8 11) (dgprRw 12 15) g16 g0,
  pinst "SMLALBB_T1" 0xfbc00080 0xfff000c0 .smulOp g8 g12 g16 g0,
  pinst "SMLALD_T1" 0xfbc000c0 0xfff000e0 .smuldOp g8 g12 g16 g0,
  pinst "SMLSLD_T1" 0xfbd000c0 0xfff000e0 .smuldOp g8 g12 g16 g0,
  pinst "UMLAL_T1" 0xfbe00000 0xfff000f0 .umulOp (dgprRw 8 11) (dgprRw 12 15) g16 g0,
  pinst "UMAAL_T1" 0xfbe00060 0xfff000f0 .umulOp (dgprRw 8 11) (dgprRw 12 15) g16 g0,
  tail "T32_FB_END"]

/-- The rows between `SISA_OP_THUMB_MAX` and `SISA_OP_THUMB_32_MAX`. -/
def thumb32Rows : List InstrDesc :=
  thumb32Top ++ thumb32E8 ++ thumb32EA ++ thumb32EC ++ thumb32F0 ++ thumb32F2 ++ thumb32F08 ++
    thumb32F8 ++ thumb32FA ++ thumb32FB

end Rit.Table
