import HeatStack.Text.Ascii
import HeatStack.Unicode.CharSet

/-! # Characters of domain names

A domain name keeps some characters, replaces others by their common forms, passes over a few, and
admits no others. -/
set_option autoImplicit false
namespace HeatStack.Unicode
open HeatStack.Text

/-! ## Admission -/

/-- The code points by admission: those that are kept or replaced, those that are passed over, and
those that are refused. -/
def admissionText : String :=
  String.join [
    "A3kCwAdB1AipB1A14C2A6C4A7C1A1C1AkC1Ab1C1A12C2A1eC2A3C1A1jC8ArC4A6ChAmC1A5cC1A1cC2A1nC2A2tCeA",
    "1nC2A1dC2AfC1AsC2A1C1AbC5AwC7A23C1A4hC1A8C2A2C2AmC1A7C1A1C3A4C2A9C2A2C2A4C8A1C4A2C1A5C2ApC2A",
    "3C1A6C4A2C2AmC1A7C1A2C1A2C1A2C2A1C1A5C4A2C2A3C3A1C7A4C1A1C7AhCaA3C1A9C1A3C1AmC1A7C1A2C1A5C2A",
    "aC1A3C1A3C2A1CfA4C2AcC7A7C1A3C1A8C2A2C2AmC1A7C1A2C1A5C2A9C2A2C2A3C7A3C4A2C1A5C2AiCaA2C1A6C3A",
    "3C1A4C3A2C1A1C1A2C3A2C3A3C3AcC4A5C3A3C1A4C2A1C6A1CeAlC5AdC1A3C1AnC1AgC2A9C1A3C1A4C7A2C1A3C1A",
    "2C2A4C2AaC7AmC1A3C1AnC1AaC1A5C2A9C1A3C1A4C7A2C5A3C1A4C2AaC1A3CcAdC1A3C1A1fC1A3C1A6C4AgC2AqC1",
    "A3C1AiC3AoC1A9C1A1C2A7C3A1C4A6C1A1C1A8C6AaC2A3CcA1mC4AtC11A2C1A1C1A5C1AoC1A1C1AnC2A5C1A1C1A7",
    "C1AaC2A4CwA20C1A10C4A13C1A10C1AfC1AdC11A5iC1A1C5A1C2A3zB2A6gC1A4C2A7C1A1C1A4C2A15C1A4C2AxC1A",
    "4C2A7C1A1C1A4C2AfC1A1lC1A4C2A1vC2AwC3AqC6A2eC2A6C2AhsC1AsC3A2hC7AmC9AoC9AkCcAdC1A3C1A2CcA1gB",
    "2A14C2AaC6AaC6AbB5AaC6A2hC7A17C5A1yCaAvC1AcC4AcC4A1C3A16C2A5CbA18C4AqC6AbC3A1qC2A1tC1AtC2AbC",
    "6AaC6AeC2A1aC2AcCkA25C1A4mC8A1oC3AfC3A1qC5A17C2AbC8A17C5AeuC2A6C2A12C2A6C2A8C1A1C1A1C1A1C1Av",
    "C2A1hC1AfC1AeC2A6C1AjC2A3C1A9C1AbB1A2C2AkC3A1C7A1dB5C5B6A2C2ArC1AdC3AyCeAxCfA3wC4AiiCmAbClA1",
    "4CkA1coC2AamC5A19C1A1C5A1C2A1kC7A2CeAoC9A7C1A7C1A7C1A7C1A7C1A7C1A7C1A7C1A3iCyAqC1A2hCcA5yC16",
    "A1sC1A2eC2A2vC5A17C1A1fB1A16C1A2eCaA1bC1AbmC1A4C1AgC1Am9gC3A1jC9A9oCkA54C8A65CkA1oC3AaC6A1kC",
    "8A1yC8AcC6A38CbAuC3A26C1AbC4AxC1A1jC9AeC2AaC2A2vCoAsCaA6C2A6C2A6C9A7C1A7C1A1oC4A3iC2AaC6A8mc",
    "CcAnC4A1dC6isAa6C2A2yC12A7CcA5C5AqC1A5C1A1C1A2C1A2C1Ai2CwAgBgA2C1A6C7AgC1AxC2AjC1A4C4A5C1A3r",
    "C2B1C1A4fB1AuC3A6C2A6C2A6C2A3C3A7C1A7ChAcC1AqC1AjC1A2C1AfC2AeCyA3fC5A3C4A19C3A2gC1AdC3A1C1bA",
    "1aC3mAtC3A1dCfAsC4A10C9AuC5A17C5AuC1A11C4AeC16A4eC2AaC6A10C4A10C4A14C8A1gCbAcC1AfC1A7C1A2C1A",
    "bC1AfC1A7C1A2C3A1gCcA8nC9AmCaA8CoA6C1A16C1A9C1xA6C2A1C1A18C1A2C3A1C2AnC1A20C8A9C1cAjC1A2C5Ax",
    "C3ArC5ArC12A1kC4AkC2A1eC1A2C5A8C1A3C1AtC2A3C4AaC7A9C7A1sCwA13C4AcC9A1iC3AtC2ArC5AqC7A4CcA7C2",
    "8A21C1jA1fCdA1fC7A1aC8AaC6A12C3AtC8A2C5sAvC1A16C1A3C2A2CgA6C8A9CxA1aC8A16CmAqC12AsCkAnC9A26C",
    "4A10C9A1qC1A5CdApC7AaC6A1hC1AiC8A13C9A2oC1AkCbAiC1A1bC1qA7C1A1C1A4C1AfC1AbC6A1nC5AaC6A4C1A8C",
    "2A2C2AmC1A7C1A2C1A5C1AaC2A2C2A3C2A1C6A1C5A7C2A7C3A5CbAaC1A1C2A1C1A12C1AaC1A1C2A1C1A4C1AaC1A2",
    "C8A2CtA2kC1A5CuA20C8AaC4mA1iC2A12CyA1xCbAaC6AdCjA1mC6AaC6AkCsArC2AfC4AnC55A1oC2sA2bCcA8C2A1C",
    "2A8C1A2C1AuC1A2C2AcC9AaC1yA8C2A1aC2AbCrA20C8A2bCdA21C7AaC2eA8C2gAyCeAaC6A9C1A19C1AeCaAtC3AwC",
    "2AmC1AeC21A7C1A2C1A18C3A1C1A2C1A9C8AaC6A6C1A2C1A11C1A2C1A6C7AaC6A18C4AaC6uApC7AhC1A15C3AtC2d",
    "A1CfA1eCdApnC2uA33C1A5CbA5gC218A2rCdAtsCgAmCaA32zC5Ag7C5a1A1mC1c6AftC7AvC1AaC4A29C1AaC6AuC2A",
    "6CaA1yCaAaC1A7C1AlC5AjCc0A1mC5iA2jC5ApC2ApC18A23C4A1lC7AhC1sA5CbA7C9A5p2C15AwC2pA37C6ppA4C1A",
    "7C1A2C1A83CfA1CtA3C2A1CeA4C8Ab0C1s4A2zC5AdC3A9C7AaC2A4B4C318A71C3Ac4C6AnCfAhCfA1aC2AnC9A38C1",
    "oA6uCaA13C2A22B8A34ClA1yC3eAkCcAkCcA2fC9ApC3rA2dC1A1zC1A2C2A1C2A2C2A4C1AcC1A1C1A7C1A1tC1A4C2",
    "A8C1A7C1AsC1A4C1A5C1A1C3A7C1A9gC2A84C2AjiCfA5C1AfCuoAvC6A6C5xA7C1AhC2A7C1A2C1A5C5A1qCxA1C34A",
    "19C3AeC2AaC4A2C8wAvChA1mC5A1CcwA16C5yA17C4A1C5cAvC1AmC8A2C68A7C1A4C1A2C1AfC1A5hC2AgC15A24C4A",
    "aC4A2CltA1wC24A1pC5eA4C1ArC1A2C1A1C2A1C1AaC1A4C1A1C1A1C6A1C4A1C1A1C1A1C1A3C1A2C1A1C2A1C1A1C1",
    "A1C1A1C1A1C1A2C1A1C2A4C1A7C1A4C1A4C1A1C1AaC1AhC5A3C1A5C1AhC1gA2C7iA18C4A2sCcAfC2AfC1AfC1A11C",
    "bA4tC1kAtCdA18C4A9C7A2CeA6C4aArdC3AhC3AdC3A62C6AcC4A1CfAcC4A1kC8AaC6A14C8AuC2AcC4A2CeA9C13A9",
    "kC8AeC2AdC3AbC3A1lC1A1C4AgC2AcC4AaC7A43C1A2vCslAwyoCwA3dqC2A4geC2A5rlCfAhaC1wiAf2C15uA3t7C5A",
    "6juCf62uB6o"]

def admissionRuns : Runs := Runs.ofText admissionText

def refusedLabel : Nat := 2

def passedOverLabel : Nat := 1

def admission (c : Char) : Nat := (admissionRuns.label? c.toNat).getD refusedLabel

/-! ## Replacement -/

/-- The characters that are replaced, with commas between them: the distance from the one before and
what replaces it, as numbers of base 36 with points between them.  After a sign and a count one entry
stands for several characters: neighbours replaced by neighbours after `+`, neighbours replaced by
the same after `=`, and every second one, replaced by every second one, after `*`. -/
def replacementText : String :=
  String.join [
    "1t+q.2p,2n.w,8.w.lk,2.2p,5.w.lg,3+2.1e,2.w.ld,1.qk,3.w.mf,1.1d,1.33,2.1d.6dg.1g,1.1d.6dg.1e,",
    "1.1f.6dg.1g,2+n.68,o+7.6w,14*o.75,1c.2x.lj,2.2x.2y,1.2x.2y,1*2.8l,5*3.8q,6.30.53,1.30.53,1*4",
    ".8y,8.jg.32,1*n.97,1a.73,1*3.ai,6.37,2.gj,1*2.ar,4.gk,1.aw,2+2.gm,2.b0,3.d9,1.gp,1.gr,1.b6,2",
    ".gw,1.gz,2.h5,1.h4,1.bd,4.hb,1.he,2.hh,1*3.bl,6.hs,1.bs,2.hv,3.bx,2.i0,1.c0,2+2.i2,2*2.c4,4.",
    "ia,1.c9,4.cd,8.2s.am,1.2s.am,1.2s.am,1.30.2y,1.30.2y,1.30.2y,1.32.2y,1.32.2y,1.32.2y,1*8.cu,",
    "h*9.db,j.2s.3e,1.2s.3e,1.2s.3e,1.dx,2.b9,1.cf,1*k.e1,14.bi,2*9.f7,o.8rp,1.fw,2.be,1.8rq,3.g2",
    ",2.ao,1.i1,1.i4,1*5.g7,2y.2w,1.h2,1.2y,1.36,1.hl,1.hn,1.ht,1.3b,1.3d,w.w.li,1.w.lj,1.w.lm,1.",
    "w.mg,1.w.lf,1.w.ln,3.gz,1.30,1.37,1.3c,1.id,2k+2.lc,3.lv,1.lk.ld,1.qh,17*2.oh,4.jd,2.on,4.w.",
    "qh,4.1n,1.s3,5.w.ld,1.w.lk.ld,1.q4,1.53,1+3.q5,4.r0,2+2.r1,3+h.q9,i+9.qr,18.rb,1.qa,1.qg,1.q",
    "t,1.r1,1.qz,1.qu,1.qo,2*c.rd,o.qi,1.qp,1.qr,2.qg,1.qd,2.s8,2.qr,1.sb,3+3.or,3+g.uo,g+w.ts,28",
    "*h.v5,16*r.wb,1i.y7,1*7.xu,f*1c.y9,2p+12.129,2e.12d.136,6m.17r.19w,1.18o.19w,1.1c7.19w,1.18q",
    ".19w,kg.1sl.1to,1.1sm.1to,1.1sn.1to,1.1ss.1to,1.1sx.1to,1.1sy.1to,1.1t7.1to,1.1tb.1to,3h.1wh",
    ".1x8,1.1wi.1x8,2.1wv.1x8,2c.20i.20s,3.20o.20s,z.1zq.20s,1.1zr.20s,1.1zw.20s,3.20b.20s,72.275",
    ".27w,1.276.27w,k6.2tp.2sy,3k.2x9.2wi,15.2wb.2vt,1.2wb.2w1,1b.2yz,1j.30i.33r,a.30s.33r,5.30x.",
    "33r,5.312.33r,5.317.33r,d.30g.33p,a.31t.31u,2.31t.31w,1.33m.328,1.33m.31t.328,1.33n.328,1.33",
    "n.31t.328,8.31t.328,i.32q.33r,a.330.33r,5.335.33r,5.33a.33r,5.33f.33r,d.32o.33p,6f+12.8w0,13",
    ".8x3,6.8x9,1b.3bw,l8+6.3xs,1oo.tu,1.tw,1.u6,1+2.u9,2.ua,1.ui,1.v7,1.wuj,1.5my,7+17.3bk,19+3.",
    "3ct,33.2p,1.6e,1*2.2q,3.2t,1.d9,1+8.2v,9.33,1.f7,1.34,1.36,1+2.38,2.3b,1.2p,1+2.gg,2.5qa,1.2",
    "q,1+2.2s,2.gp,1+2.gr,2.2v,2.2z,1.31,1.97,1.33,1.gk,1+2.5qu,2.34,1+2.38,2.5r1,1.hb,1.3a,1.5r9",
    ",1+3.qa,3+2.qu,2.2x,1.36,1+2.39,2+2.qa,2.qp,1+2.qu,f.u5,z.gi,1.2r,1.gl,1.6o,1.gs,1.2u,1.gv,1",
    ".gx,1.h1,1+3.h4,3.5tn,1.il,1.h9,1.5tx,1.in,1.hd,1.hc,1+4.he,4.hk,1+2.hu,2.bv,1+2.i1,2.5r0,1+",
    "2.i3,2.3e,1+3.i8,3.qg,1t*23.5xd,4a.2p.ji,1.601,3.67,2*1c.61t,2w+8.64g,g+6.64w,g+8.65c,g+8.65",
    "s,g+6.668,h*4.66p,f+8.674,9.q4,2.q5,2.q6,2.q7,2.r0,2.r1,2.r2,3.64g.qh,1.64h.qh,1.64i.qh,1.64",
    "j.qh,1.64k.qh,1.64l.qh,1.64m.qh,1.64n.qh,1.64g.qh,1.64h.qh,1.64i.qh,1.64j.qh,1.64k.qh,1.64l.",
    "qh,1.64m.qh,1.64n.qh,1.65c.qh,1.65d.qh,1.65e.qh,1.65f.qh,1.65g.qh,1.65h.qh,1.65i.qh,1.65j.qh",
    ",1.65c.qh,1.65d.qh,1.65e.qh,1.65f.qh,1.65g.qh,1.65h.qh,1.65i.qh,1.65j.qh,1.674.qh,1.675.qh,1",
    ".676.qh,1.677.qh,1.678.qh,1.679.qh,1.67a.qh,1.67b.qh,1.674.qh,1.675.qh,1.676.qh,1.677.qh,1.6",
    "78.qh,1.679.qh,1.67a.qh,1.67b.qh,3.67k.qh,1.q9.qh,1.q4.qh,3.69i.qh,1+2.69c,2.67k,1.q4,1.q9.q",
    "h,1.w.lv,1.qh,1.w.lv,1.w.n6,1.w.lk.n6,1.67o.qh,1.qf.qh,1.q6.qh,3.69y.qh,1.67m,1.q5,1.67o,1.q",
    "6,1.qf.qh,1.w.lv.lc,1.w.lv.ld,1.w.lv.n6,4.pc,5+2.6a8,2.67q,1.q7,2.w.lw.lc,1.w.lw.ld,1.w.lw.n",
    "6,4.q8,5+2.6ao,2.67u,1.r1,1.6at,1.w.lk.lc,1.w.lk.ld,1.2o,3.67w.qh,1.qx.qh,1.r2.qh,3.6ba.qh,1",
    ".67s,1.r0,1.67w,1.r2,1.qx.qh,1.w.ld,1.w.lw,2=b.w,h.6c0,6.w.mr,o.w,4.6cy.6cy,1.6cy.6cy.6cy,2.",
    "6d1.6d1,1.6d1.6d1.6d1,5.x.x,2.w.lh,9.1r.1r,1.1r.x,1.x.1r,e.6cy.6cy.6cy.6cy,8.w,h.1c,1.2x,3+6",
    ".1g,6.17,1.6qa,1.1p,1+2.14,2.32,1+a.1c,a.17,1.6qa,1.1p,1+2.14,3.2p,1.2t,1.33,1.3c,1.gp,1.2w,",
    "1+4.2z,4.34,1+2.37,d.36.37,2g.2p.1b.2r,1.2p.1b.37,1.2r,1.4w.2r,2.2r.1b.33,1.2r.1b.39,1.gr,2.",
    "4w.2u,1+2.2v,2=3.2w,3.87,1=2.2x,2=2.30,3.32,1.32.33,3+3.34,3=2.36,4.37.31,1.38.2t.30,1.38.31",
    ",2.3e,2.qx,2.3e,2.2z,1.6d,1+2.2q,3=2.2t,2.2u,1.6ku,1.31,1.33,1+4.15c,4.2x,2.2u.2p.3c,1.qo,1=",
    "2.qb,2.qo,1.6q9,5=2.2s,2.2t,1+2.2x,8.1d.6dg.1j,1.1d.6dg.1l,1.1d.6dg.1d.1c,1.1d.6dg.1f,1.1e.6",
    "dg.1f,1.1d.6dg.1h,1.1e.6dg.1h,1.1f.6dg.1h,1.1g.6dg.1h,1.1d.6dg.1i,1.1h.6dg.1i,1.1d.6dg.1k,1.",
    "1f.6dg.1k,1.1h.6dg.1k,1.1j.6dg.1k,1.1d.6dg,1.2x,1.2x.2x,1.2x.2x.2x,1.2x.3a,1.3a,1.3a.2x,1.3a",
    ".2x.2x,1.3a.2x.2x.2x,1.2x.3c,1.3c,1.3c.2x,1.3c.2x.2x,1.30,1+2.2r,2.31,1.2x,1.2x.2x,1.2x.2x.2",
    "x,1.2x.3a,1.3a,1.3a.2x,1.3a.2x.2x,1.3a.2x.2x.2x,1.2x.3c,1.3c,1.3c.2x,1.3c.2x.2x,1.30,1+2.2r,",
    "2.31,4.6mc,6.1c.6dg.1f,4j.6qz.6qz,1.6qz.6qz.6qz,2.6r2.6r2,1.6r2.6r2.6r2,6x+2.9hk,8n+9.1d,9.1",
    "d.1c,1.1d.1d,1.1d.1e,1.1d.1f,1.1d.1g,1.1d.1h,1.1d.1i,1.1d.1j,1.1d.1k,1.1d.1l,1.1e.1c,1.14.1d",
    ".15,1.14.1e.15,1.14.1f.15,1.14.1g.15,1.14.1h.15,1.14.1i.15,1.14.1j.15,1.14.1k.15,1.14.1l.15,",
    "1.14.1d.1c.15,1.14.1d.1d.15,1.14.1d.1e.15,1.14.1d.1f.15,1.14.1d.1g.15,1.14.1d.1h.15,1.14.1d.",
    "1i.15,1.14.1d.1j.15,1.14.1d.1k.15,1.14.1d.1l.15,1.14.1e.1c.15,l.14.2p.15,1.14.2q.15,1.14.2r.",
    "15,1.14.2s.15,1.14.2t.15,1.14.2u.15,1.14.2v.15,1.14.2w.15,1.14.2x.15,1.14.2y.15,1.14.2z.15,1",
    ".14.30.15,1.14.31.15,1.14.32.15,1.14.33.15,1.14.34.15,1.14.35.15,1.14.36.15,1.14.37.15,1.14.",
    "38.15,1.14.39.15,1.14.3a.15,1.14.3b.15,1.14.3c.15,1.14.3d.15,1.14.3e.15,1+q.2p,q+q.2p,q.1c,1",
    "0i.6qz.6qz.6qz.6qz,2w.1m.1m.1p,1.1p.1p,1.1p.1p.1p,2u.8gt.mw,84+1c.8q8,2o.8rl,2.h7,1.5tp,1.hp",
    ",3*3.8rs,6.gh,1.hd,1.gg,1.gi,2.8s3,3.8s6,7.2y,1.3a,1+2.fz,2*1e.8sh,2z*2.8vg,7.8vn,3h.8yp,8g.",
    "lal,2c.vj3,d.feo,1.ffs,1.fg6,1.fgf,1.fh5,1.fid,1.fik,1.fj4,1.fju,1.g1r,1.g2t,1.g2z,1.g3m,1.g",
    "46,1.g4r,1.g68,1.g6t,1.g74,1.gbf,1.ge1,1.get,1.gey,1.gfs,1.gg1,1.ggs,1.gh5,1.ghu,1.gja,1.gjs",
    ",1.gkj,1.h5j,1.h7j,1.hkb,1.hky,1.hl6,1.hlh,1.hlz,1.ho3,1.i1c,1.i2o,1.i60,1.i6n,1.i76,1.i7s,1",
    ".i9a,1.i9d,1.ijf,1.ijp,1.ik1,1.ike,1.inm,1.inu,1.inz,1.ir8,1.iri,1.irv,1.is3,1.its,1.iu9,1.i",
    "ur,1.iwz,1.jd4,1.jee,1.jez,1.jzj,1.jzo,1.k1z,1.k2f,1.k2s,1.k3d,1.k4g,1.k4l,1.kc0,1.kco,1.kdk",
    ",1.l5s,1.l7m,1.l89,1.l9v,1.laj,1.las,1.laz,1.lcf,1.lck,1.ldg,1.m7f,1.mju,1.mk6,1.mkb,1.mkf,1",
    ".mkn,1.ml5,1.ml7,1.mng,1.mtg,1.mtl,1.n30,1.n3a,1.n4o,1.n4v,1.n54,1.n5c,1.n7v,1.n82,1.nee,1.n",
    "el,1.nfy,1.ngf,1.nhq,1.nob,1.noi,1.noz,1.ny2,1.o1k,1.o1q,1.o6s,1.o97,1.oah,1.okz,1.ooo,1.p4m",
    ",1.p5d,1.p6y,1.p8d,1.pa9,1.pak,1.paq,1.pbn,1.pdr,1.pe1,1.pnn,1.pnu,1.po3,1.poc,1.pos,1.pp7,1",
    ".ppb,1.pri,1.prm,1.prs,1.qj1,1.qjv,1.qww,1.qx8,1.qxv,1.r5q,1.r63,1.r82,1.r9c,1.rp3,1.rpi,1.r",
    "px,1.rqw,1.rrx,1.rxg,1.rxs,1.rzn,1.s6j,1.s7e,1.sd7,1.sds,1.sdx,1.sk1,1.sp5,1.ssm,1.sss,1.ssx",
    ",1.tiv,1.tj4,1.tng,1.trq,1.trt,1.tt4,1.tw1,1.twe,1.twi,1.twp,1.tzf,1.u0d,1.u0j,1.u0x,1.u5k,1",
    ".u6z,1.u73,1.uc6,1.uc9,1.ucs,1.ujs,1.ul4,1.ulb,1.un9,1.unj,1.unm,1.unw,1.uoq,1.uzp,1.vat,1.v",
    "b3,1.vc5,1.vcr,1.vcz,1.vd9,1.vdd,1.veh,1.vel,1.vf2,1.vf7,1.vfk,1.vgb,1.vgq,1.vgy,1.vil,1.vj0",
    ",1.vj4,17.w,2.1a,1g.9hu,2.gg1,1+2.gg4,2q.w.9ll,1.w.9lm,3.9l4.9l6,2o.9mb.9mw,1e+2.3cw,2.3hm,1",
    ".3cy,1+2.3ho,2+3.3cz,3+6.3hs,6.3dm,1+3.3d2,3.3dt,1+a.3d5,a+l.3fl,m+2.3dg,2+2.3if,2.3ik,1.3im",
    ",1.3ir,1.3iv,1.3ix,1.3do,1.3j1,1.3j3,1+2.3dp,2.3ds,1+2.3du,2.3dz,1.3e1,1+5.3e3,5.3ea,1.3ee,1",
    ".3eo,1.3ev,1.3f0,1+2.3jl,2+3.3fb,3+2.3gk,2.3go,1+2.3gx,2.3h0,1.3ha,1.3hd,4.feo,1.fik,1.fex,1",
    ".h5n,1.fey,1.ffx,1.fez,1.n5e,1.fh5,1.ffd,1.fep,1.hm1,1.h80,1.fju,2p.14.3cw.15,1.14.3cy.15,1.",
    "14.3cz.15,1.14.3d1.15,1.14.3d2.15,1.14.3d3.15,1.14.3d5.15,1.14.3d7.15,1.14.3d8.15,1.14.3da.1",
    "5,1.14.3db.15,1.14.3dc.15,1.14.3dd.15,1.14.3de.15,1.14.xz4.15,1.14.yvs.15,1.14.zc4.15,1.14.1",
    "08s.15,1.14.10p4.15,1.14.115g.15,1.14.1224.15,1.14.12ys.15,1.14.13f4.15,1.14.14bs.15,1.14.14",
    "s4.15,1.14.158g.15,1.14.15os.15,1.14.1654.15,1.14.13p8.15,1.14.1350.13ic.15,1.14.1350.16f8.1",
    "5,2.14.feo.15,1.14.fik.15,1.14.fex.15,1.14.h5n.15,1.14.fis.15,1.14.g31.15,1.14.fer.15,1.14.g",
    "2z.15,1.14.fh9.15,1.14.gg1.15,1.14.kco.15,1.14.m7f.15,1.14.ldg.15,1.14.kdk.15,1.14.ssx.15,1.",
    "14.h7j.15,1.14.k4l.15,1.14.kkq.15,1.14.kcp.15,1.14.ny6.15,1.14.glp.15,1.14.mm1.15,1.14.rs1.1",
    "5,1.14.nz1.15,1.14.gc4.15,1.14.fkz.15,1.14.gos.15,1.14.i1y.15,1.14.nhf.15,1.14.flt.15,1.14.r",
    "t3.15,1.14.ggk.15,1.14.nzh.15,1.14.fm9.15,1.14.pnu.15,1.14.po3.15,1.gun,1.inw,1.k1z,1.oen,9.",
    "34.38.2t,1.1e.1d,1.1e.1e,1.1e.1f,1.1e.1g,1.1e.1h,1.1e.1i,1.1e.1j,1.1e.1k,1.1e.1l,1.1f.1c,1.1",
    "f.1d,1.1f.1e,1.1f.1f,1.1f.1g,1.1f.1h,1.3cw,1+2.3cy,2+3.3d1,3.3d5,1+2.3d7,2+5.3da,5.xz4,1.yvs",
    ",1.zc4,1.108s,1.10p4,1.115g,1.1224,1.12ys,1.13f4,1.14bs,1.14s4,1.158g,1.15os,1.1654,1.14c8.y",
    "5c,1.13p8.13dk,1.138w,2.feo,1.fik,1.fex,1.h5n,1.fis,1.g31,1.fer,1.g2z,1.fh9,1.gg1,1.kco,1.m7",
    "f,1.ldg,1.kdk,1.ssx,1.h7j,1.k4l,1.kkq,1.kcp,1.ny6,1.glp,1.mm1,1.rs1,1.nz1,1.gc4,1.o2g,1.n5j,",
    "1.ho3,1.six,1.g16,1.ghc,1.lig,1.u11,1.fm9,1.g49,1.l7n,1.fey,1.ffx,1.fez,1.ijq,1.gkz,1.gfv,1.",
    "i3b,1.i1y,1.nhf,1.flt,1.rt3,1.ggk,1.hlo,1.1f.1i,1.1f.1j,1.1f.1k,1.1f.1l,1.1g.1c,1.1g.1d,1.1g",
    ".1e,1.1g.1f,1.1g.1g,1.1g.1h,1.1g.1i,1.1g.1j,1.1g.1k,1.1g.1l,1.1h.1c,1.1d.kco,1.1e.kco,1.1f.k",
    "co,1.1g.kco,1.1h.kco,1.1i.kco,1.1j.kco,1.1k.kco,1.1l.kco,1.1d.1c.kco,1.1d.1d.kco,1.1d.1e.kco",
    ",1.2w.2v,1.2t.36.2v,1.2t.3a,1.30.38.2s,1.9lu,1.9lw,1.9ly,1.9m0,1+2.9m2,2.9m5,1.9m7,1.9m9,1.9",
    "mb,1.9md,1.9mf,1.9mh,1.9mj,1.9ml,1.9mn,1.9mp,1.9ms,1.9mu,1.9mw,1+6.9my,6.9n6,1.9n9,1.9nc,1.9",
    "nf,1+5.9ni,5.9no,1.9nq,1+6.9ns,6+4.9nz,4.fl0.gp8,1.9lu.9n5.9oc.9mw,1.9lu.9nv.9n9.9lt,1.9lu.9",
    "o3.9ne.9lu,1.9lu.9oc.9nv,1.9lw.9mz.9o3.9m8,1.9lw.9o3.9mp,1.9ly.9m1.9o3,1.9m0.9mh.9m7.9oc.9mx",
    ",1.9m0.9oc.9m3.9oc,1.9m2.9o3.9mh,1.9m2.9oc.9nk,1.9m3.9lw.9nu,1.9m3.9nt.9mr.9mw,1.9m3.9nx.9nu",
    ".9oc,1.9m4.9nx.9o3,1.9m4.9o3.9ni,1.9m6.9m4,1.9m6.9mz.9oc,1.9m5.9np.9nu.9oc,1.9m6.9nv.9mo.9oc",
    ",1.9m5.9nx,1.9m5.9nx.9m8.9nt.9nk,1.9m5.9nx.9nl.9oc.9mw.9nv,1.9m5.9nx.9nz.9mr.9mw,1.9m8.9nt.9",
    "nk,1.9m8.9nt.9nk.9mw.9o3,1.9m7.9nv.9mk.9lw.9nx,1.9m7.9nx.9oc.9n1,1.9m9.9oc.9mh,1.9mb.9nv.9my",
    ",1.9mb.9oc.9nh,1.9md.9lw.9m7.9nv,1.9md.9o3.9mp.9oc.9nk,1.9mf.9nu.9o3.9m8,1.9mj.9o3.9mp,1.9mj",
    ".9o3.9mw,1.9mo.9oc.9mh,1.9mv.9mf,1.9mx.9nv,1.9mw.9o3,1.9my.9n2,1.9n2.9mr.9mw,1.9n3.9lw.9ms,1",
    ".9n5.9oc.9mj.9o3.9mw,1.9n5.9oc.9ms,1.9n4.9oc.9nw.9nv,1.9n8.9lu.9mh.9mw.9nv,1.9n8.9m7.9nv,1.9",
    "n8.9mb,1.9n7.9nv,1.9n9.9lt.9nt.9mr.9mx,1.9n9.9lv.9oc.9mw,1.9na.9mr.9mf.9lz.9nv,1.9n9.9nt.9o3",
    ",1.9nc.9m7.9mn.9oc.9nv,1.9ne.9ml,1.9ne.9mz.9n6,1.9nc.9nv.9ms,1.9ne.9o3.9mh,1.9ne.9oc.9mg,1.9",
    "nd.9oc.9mn,1.9nh.9lw.9o3.9mw,1.9ng.9nv.9mw,1.9nf.9o3,1.9nh.9o3.9mx,1.9nf.9oc.9nv,1.9nf.9oc.9",
    "o3,1.9ni.9lw.9m7.9nx,1.9ni.9lw.9nv,1.9ni.9mr.9n3,1.9ni.9nv.9m7,1.9ni.9o3.9mf.9nr.9o3,1.9nj.9",
    "m7.9nx.9o3,1.9nj.9nu,1.9nj.9nu.9n4.9oc.9nv,1.9nl.9m4,1.9nl.9m4.9mw.9o3,1.9nl.9oc.9mw.9nv,1.9",
    "no.9oc.9mx,1.9no.9oc.9nv,1.9nq.9lu.9o3,1.9nu.9mr.9mw.9nv,1.9nu.9nt,1.9nv.9n8.9oc,1.9nv.9oc.9",
    "na.9nv,1.9nw.9nk,1.9nw.9o3.9mw.9ma.9o3,1.9nz.9mr.9mw,1.1c.m9l,1.1d.m9l,1.1e.m9l,1.1f.m9l,1.1",
    "g.m9l,1.1h.m9l,1.1i.m9l,1.1j.m9l,1.1k.m9l,1.1l.m9l,1.1d.1c.m9l,1.1d.1d.m9l,1.1d.1e.m9l,1.1d.",
    "1f.m9l,1.1d.1g.m9l,1.1d.1h.m9l,1.1d.1i.m9l,1.1d.1j.m9l,1.1d.1k.m9l,1.1d.1l.m9l,1.1e.1c.m9l,1",
    ".1e.1d.m9l,1.1e.1e.m9l,1.1e.1f.m9l,1.1e.1g.m9l,1.2w.34.2p,1.2s.2p,1.2p.39,1.2q.2p.36,1.33.3a",
    ",1.34.2r,1.2s.31,1.2s.31.1e,1.2s.31.1f,1.2x.39,1.inn.jdc,1.k6l.gp8,1.hlz.l7n,1.k5q.lh7,1.kkq",
    ".irz.fmi.ny6,1.34.2p,1.32.2p,1.qk.2p,1.31.2p,1.2z.2p,1.2z.2q,1.31.2q,1.2v.2q,1.2r.2p.30,1.2z",
    ".2r.2p.30,1.34.2u,1.32.2u,1.qk.2u,1.qk.2v,1.31.2v,1.2z.2v,1.2w.3e,1.2z.2w.3e,1.31.2w.3e,1.2v",
    ".2w.3e,1.38.2w.3e,1.qk.30,1.31.30,1.2s.30,1.2z.30,1.2u.31,1.32.31,1.qk.31,1.31.31,1.2r.31,1.",
    "2z.31,1.31.31.1e,1.2r.31.1e,1.31.1e,1.2z.31.1e,1.31.31.1f,1.2r.31.1f,1.31.1f,1.2z.31.1f,1.31",
    ".6qd.37,1.31.6qd.37.1e,1.34.2p,1.2z.34.2p,1.31.34.2p,1.2v.34.2p,1.36.2p.2s,1.36.2p.2s.6qd.37",
    ",1.36.2p.2s.6qd.37.1e,1.34.37,1.32.37,1.qk.37,1.31.37,1.34.3a,1.32.3a,1.qk.3a,1.31.3a,1.2z.3",
    "a,1.31.3a,1.34.3b,1.32.3b,1.qk.3b,1.31.3b,1.2z.3b,1.31.3b,1.2z.qx,1.31.qx,2.2q.35,1.2r.2r,1.",
    "2r.2s,1.2r.6qd.2z.2v,2.2s.2q,1.2v.3d,1.2w.2p,1.2w.34,1.2x.32,1.2z.2z,1.2z.31,1.2z.38,1.30.31",
    ",1.30.32,1.30.33.2v,1.30.3c,1.31.2q,1.31.2x.30,1.31.33.30,1.34.2w,2.34.34.31,1.34.36,1.37.36",
    ",1.37.3a,1.3b.2q,1.3a.6qd.31,1.2p.6qd.31,1.1d.k4l,1.1e.k4l,1.1f.k4l,1.1g.k4l,1.1h.k4l,1.1i.k",
    "4l,1.1j.k4l,1.1k.k4l,1.1l.k4l,1.1d.1c.k4l,1.1d.1d.k4l,1.1d.1e.k4l,1.1d.1f.k4l,1.1d.1g.k4l,1.",
    "1d.1h.k4l,1.1d.1i.k4l,1.1d.1j.k4l,1.1d.1k.k4l,1.1d.1l.k4l,1.1e.1c.k4l,1.1e.1d.k4l,1.1e.1e.k4",
    "l,1.1e.1f.k4l,1.1e.1g.k4l,1.1e.1h.k4l,1.1e.1i.k4l,1.1e.1j.k4l,1.1e.1k.k4l,1.1e.1l.k4l,1.1f.1",
    "c.k4l,1.1f.1d.k4l,1.2v.2p.30,mkh*n.wu9,1s*e.ww1,s.ui,1.uk,3p*7.x0j,g*v.x0z,1q.x2n,9*2.x2y,4.",
    "5tl,1*5.x33,d.x3g,2.h1,3*2.x3l,6*a.x3r,k.h2,1.gs,1.gx,1.h8,1.h6,2.im,1.hz,1.il,1.xub,1*8.x4l",
    ",g.x3o,1.hu,1.5u6,1*2.x54,4.h0,1*8.x59,g.bf,l.37,1.2r,1.2u,1.35,1.x6e,3.87,1.9f,o3.x0n,1.xtj",
    ",1.h7,1.xua,a.i5,7+28.3vk,fbk.rpk,1.kc4,1.s7e,1.rt4,1.lw1,1.fg2,1.gkl,1=2.vj0,2.hn5,1.ssx,1.",
    "gw7,1.hmw,1.jcm,1.ne1,1.p6t,1.qin,1.qt6,1.r20,1.sjz,1.kxu,1.ljv,1.mah,1.mvy,1.q4d,1.sq2,1.ue",
    "p,1.fia,1.ghh,1.l50,1.mjf,1.qi5,1.v8e,1.ifk,1.m3v,1.qfh,1.r50,1.jih,1.pnc,1.qvz,1.iq2,1.kd3,",
    "1.lm2,1.mpo,1.slq,1.fpi,1.g53,1.gda,1.jwk,1.l3n,1.mj4,1.nhj,1.pa9,1.qh2,1.qjg,1.s1b,1.tv6,1.",
    "upb,1.v7e,1.nt8,1.nzz,1.otc,1.q15,1.t1g,1.vb3,1.rfa,1.hjz,1.iro,1.okg,1.pdq,1.mle,1.nuy,1.rs",
    "y,1.ttj,1.hjs,1.i8y,1.kyb,1.lp6,1.lxr,1.oq7,1.oxj,1.tor,1.gcy,1.pe3,1.g64,1.g5o,1.o4c,1.ou6,",
    "1.q29,1.tpx,1.rk0,1.jin,1.kxu,1.rge,1.fg9,1.i5j,1.iz6,1.mtj,1.n74,1.gev,1.nwb,1.fr3,1.iw9,1.",
    "ff1,1.lho,1.k1k,1.opu,1.gjn,1.hge,1.ni9,1.q4p,1.re2,1.la2,1.sds,1.lfs,1.jjy,1.put,1.jog,1.n6",
    "t,1.fji,1.g2x,1.g5l,1.kn5,1.oo7,1.prj,1.rf6,1.ssv,1.gdx,1.gn6,1.ho3,1.ir0,1.k3p,1.m4e,1.nxm,",
    "1.tkd,1.ui2,1.vbr,1.vda,1.gbf,1.kau,1.l87,1.sbm,1.ino,1.j9s,1.jcw,1.jve,1.lyb,1.mdl,1.n0p,1.",
    "o22,1.ovo,1.pdb,1.s9y,1.q9a,1.sgz,1.t3e,1.g7r,1.gbn,1.gql,1.ma0,1.r0i,1.re2,1.iq1,1.iyd,1.jn",
    "f,1.l9q,1.oji,1.mt1,1.fl0,1.h6h,1.i5j,1.iii,1.izg,1.muq,1.mzt,1.p7e,1.pc6,1.svo,1.tti,1.tvs,",
    "1.u1k,1.fpn,1.o1a,1.ss4,1.trs,1.j4x,1.fie,1.fyy,1.i5q,1.i7z,1.k2h,1.kxu,1.mha,1.ncy,1.q9o,1.",
    "sjg,1.vil,1.k94,1.tny,1.gax,1.kfv,1.kj7,1.lkx,1.luk,1.mx5,1.n6h,1.nsb,1.opc,1.u3i,1.g31,1.je",
    "6,1.tq0,1.fu3,1.ie1,1.lpm,1.sa2,1.ivf,1.j7o,1.kk7,1.mtj,1.tqe,1.g89,1.glr,1.i91,1.k5v,1.kem,",
    "1.ko8,1.lid,1.mx2,1.naa,1.p6h,1.r0v,1.r1d,1.sss,1.tsy,1.gfz,1.lve,1.gm5,1.mhc,1.n14,1.qgq,1.",
    "tr7,1.uvr,1.vbz,1.kgn,1.lor,1.pns,1.o97,1.obk,1.olu,1.mo0,1.m8p,1.riw,1.fk0,1.px2,1.g8q,1.g7",
    "b,1.ip2,1.jir,1.onq,1.i2t,1.ljy,1.kac,1.saj,1.qx8,1.tot,1.r63,1.iqb,1.g1s,1.gxs,3.hga,2.k8k,",
    "3.g66,1.mqy,1.ngq,1.ny4,1.nz2,1.nz9,1.o0f,1.tw6,1.on2,1.p8d,2.qhe,2.rg8,3.shk,1.sn1,4.u7j,1.",
    "u7w,1.u94,1.v5g,1.sm6,1.trr,1.fqm,1.fzb,1.g25,1.gcp,1.gdg,1.ggh,1.gwt,1.gzq,1.h2g,1.hfk,1.hi",
    "g,1.i90,1.i9a,1.j2s,1.j8o,1.j9q,1.jci,1.k0f,1.k4i,1.k9d,1.kn9,1.lmf,1.lqy,1.lya,1.mem,1.mjv,",
    "1.mxu,1.ntd,1.ny6,1.nyh,1.nyg,1.nyo,1.nyu,1.nz1,1+2.o0d,2.o5c,1.o75,1.og0,1.ovo,1.ow9,1.oxt,",
    "1.p6a,1.pad,1.pnx,1=2.prt,2.q53,1.r2o,1.r6e,1.rgh,1.ri1,1.rtf,1.ruw,1.sdy,1.shk,1.tsz,1.u0v,",
    "1.u2j,1.j1x,1.36cu,1.pp4,3.ffq,1.g51,1.g2w,1.fpc,1.g1x,1.g3k,1.gcn,1.ge2,1.gwt,1.gut,1.gwp,1",
    ".gyq,1.hga,1.hir,1.hms,1.hn8,1.huq,1.i08,1.iqa,1.iqh,1.iuh,1.iwd,1.j4o,1.j7y,1.j60,1.j9q,1.j",
    "8g,1.jci,1.jec,1.jpg,1.jrw,1.jte,1.k0m,1.k8k,1.kd3,1.kd7,1.keu,1.l89,1.la2,1.lkx,1.lwb,1.lvv",
    ",1.lya,1.m5a,1.mem,1.nmv,1.mk5,1.mnj,1.mqy,1.n01,1.n46,1.n5n,1.nbx,1.nbz,1.ngq,1.nh7,1.nhw,1",
    ".nka,1.nk0,1.nv0,1.o8h,1.og0,1.ol7,1.orf,1.ovo,1.p4u,1.pad,1.pxu,1.q27,1.qrd,1.r41,1.r5y,1.r",
    "6e,1.ren,1.rg8,1.rez,1.rgh,1.rge,1.rfx,1.ri1,1.rka,1.ruw,1.sag,1.sj6,1.srd,1.sxi,1.tq4,1.tsz",
    ",1.tw6,1.tzv,1.u0v,1.u17,1.u2j,1.umq,1.vj0,1.313e,1.3138,1.33dh,1.brx,1.cns,1.cop,1.39e1,1.3",
    "bgw,1.3i6r,1.vgj,1.vim,13.2u.2u,1.2u.2x,1.2u.30,1.2u.2u.2x,1.2u.2u.30,1.37.38,1.37.38,d.12s.",
    "12u,1.12s.12d,1.12s.12j,1.132.12u,1.12s.12l,6.15l.14k,2.16a.14n,1.15u,1.15c,1+2.15f,2+3.15n,",
    "3.160,1.162,1.17,1.161.14x,1.161.14y,1.161.14s.14x,1.161.14s.14y,1.15c.14n,1.15c.14o,1.15c.1",
    "4s,1.15d.14s,1.15e.14s,1.15f.14s,1.15g.14s,1.15h.14s,1.15i.14s,2.15k.14s,1.15l.14s,1.15m.14s",
    ",1.15n.14s,1.15o.14s,2.15q.14s,2.15s.14s,1.15t.14s,2.15v.14s,1.15w.14s,2.15y.14s,1.15z.14s,1",
    ".160.14s,1.161.14s,1.162.14s,1.15h.14p,1.15d.14v,1.15n.14v,1.15w.14v,1.15c.15o,1=2.19t,2=4.1",
    "a3,4=4.1a6,4=4.1a8,4=4.1a2,4=4.1a7,4=4.1a1,4=4.1b8,4=4.1ba,4=4.1ac,4=4.1ab,4=4.1ae,4=4.1af,4",
    "=2.1al,2=2.1ak,2=2.1am,2=2.1ag,2=2.1aw,2=2.1ap,2=4.1bd,4=4.1bj,4=4.1bn,4=4.1bl,4=2.1bu,2=4.1",
    "bv,4=2.1c0,2=4.1c1,4=4.1by,4=2.1ci,2=2.1cj,z=4.1bh,4=2.1c7,2=2.1c6,2=2.1c8,2.1c7.19w,1=2.1cb",
    ",2=2.1c5,2=2.1c9,2=4.1cg,4=2.18p,2.17q.17r,1.17q.17r,1.17q.1cl,1.17q.1cl,1.17q.18o,1.17q.18o",
    ",1.17q.1c7,1.17q.1c7,1.17q.1c6,1.17q.1c6,1.17q.1c8,1.17q.1c8,1.17q.1cg,1.17q.1cg,1.17q.1cg,1",
    ".17q.18p,1.17q.18p,1.17q.18p,1=4.1cc,4.17q.17w,1.17q.17x,1.17q.18l,1.17q.18p,1.17q.18q,1.17s",
    ".17w,1.17s.17x,1.17s.17y,1.17s.18l,1.17s.18p,1.17s.18q,1.17u.17w,1.17u.17x,1.17u.17y,1.17u.1",
    "8l,1.17u.18p,1.17u.18q,1.17v.17w,1.17v.18l,1.17v.18p,1.17v.18q,1.17w.17x,1.17w.18l,1.17x.17w",
    ",1.17x.18l,1.17y.17w,1.17y.17x,1.17y.18l,1.183.17w,1.183.17x,1.183.17y,1.183.18l,1.185.17x,1",
    ".185.18l,1.186.17w,1.186.17x,1.186.17y,1.186.18l,1.187.17x,1.187.18l,1.188.18l,1.189.17w,1.1",
    "89.18l,1.18a.17w,1.18a.18l,1.18h.17w,1.18h.17x,1.18h.17y,1.18h.18l,1.18h.18p,1.18h.18q,1.18i",
    ".17x,1.18i.18l,1.18i.18p,1.18i.18q,1.18j.17r,1.18j.17w,1.18j.17x,1.18j.17y,1.18j.18k,1.18j.1",
    "8l,1.18j.18p,1.18j.18q,1.18k.17w,1.18k.17x,1.18k.17y,1.18k.18l,1.18k.18p,1.18k.18q,1.18l.17w",
    ",1.18l.17x,1.18l.17y,1.18l.18l,1.18l.18p,1.18l.18q,1.18m.17w,1.18m.17x,1.18m.17y,1.18m.18l,1",
    ".18m.18p,1.18m.18q,1.18n.17w,1.18n.18l,1.18n.18p,1.18n.18q,1.18q.17w,1.18q.17x,1.18q.17y,1.1",
    "8q.18l,1.18q.18p,1.18q.18q,1.180.19s,1.181.19s,1.18p.19s,1.w.18s.18x,1.w.18t.18x,1.w.18u.18x",
    ",1.w.18v.18x,1.w.18w.18x,1.w.18x.19s,1.17q.181,1.17q.182,1.17q.18l,1.17q.18m,1.17q.18p,1.17q",
    ".18q,1.17s.181,1.17s.182,1.17s.18l,1.17s.18m,1.17s.18p,1.17s.18q,1.17u.181,1.17u.182,1.17u.1",
    "8l,1.17u.18m,1.17u.18p,1.17u.18q,1.17v.181,1.17v.182,1.17v.18l,1.17v.18m,1.17v.18p,1.17v.18q",
    ",1.18h.18p,1.18h.18q,1.18i.18p,1.18i.18q,1.18j.17r,1.18j.18k,1.18j.18l,1.18j.18p,1.18j.18q,1",
    ".18k.18l,1.18k.18p,1.18k.18q,1.18l.17r,1.18l.18l,1.18m.181,1.18m.182,1.18m.18l,1.18m.18m,1.1",
    "8m.18p,1.18m.18q,1.18p.19s,1.18q.181,1.18q.182,1.18q.18l,1.18q.18m,1.18q.18p,1.18q.18q,1.17q",
    ".17w,1.17q.17x,1.17q.17y,1.17q.18l,1.17q.18n,1.17s.17w,1.17s.17x,1.17s.17y,1.17s.18l,1.17s.1",
    "8n,1.17u.17w,1.17u.17x,1.17u.17y,1.17u.18l,1.17u.18n,1.17v.18l,1.17w.17x,1.17w.18l,1.17x.17w",
    ",1.17x.18l,1.17y.17w,1.17y.18l,1.183.17w,1.183.17x,1.183.17y,1.183.18l,1.185.17x,1.185.17y,1",
    ".185.18l,1.186.17w,1.186.17x,1.186.17y,1.186.18l,1.187.17x,1.188.18l,1.189.17w,1.189.18l,1.1",
    "8a.17w,1.18a.18l,1.18h.17w,1.18h.17x,1.18h.17y,1.18h.18l,1.18i.17x,1.18i.18l,1.18j.17w,1.18j",
    ".17x,1.18j.17y,1.18j.18k,1.18j.18l,1.18k.17w,1.18k.17x,1.18k.17y,1.18k.18l,1.18k.18n,1.18l.1",
    "7w,1.18l.17x,1.18l.17y,1.18l.18l,1.18m.17w,1.18m.17x,1.18m.17y,1.18m.18l,1.18m.18n,1.18n.17w",
    ",1.18n.18l,1.18n.19s,1.18q.17w,1.18q.17x,1.18q.17y,1.18q.18l,1.18q.18n,1.17q.18l,1.17q.18n,1",
    ".17s.18l,1.17s.18n,1.17u.18l,1.17u.18n,1.17v.18l,1.17v.18n,1.183.18l,1.183.18n,1.184.18l,1.1",
    "84.18n,1.18j.18k,1.18j.18l,1.18k.18l,1.18m.18l,1.18m.18n,1.18q.18l,1.18q.18n,1.18g.18u.18x,1",
    ".18g.18v.18x,1.18g.18w.18x,1.187.18p,1.187.18q,1.189.18p,1.189.18q,1.18a.18p,1.18a.18q,1.183",
    ".18p,1.183.18q,1.184.18p,1.184.18q,1.17x.18p,1.17x.18q,1.17w.18p,1.17w.18q,1.17y.18p,1.17y.1",
    "8q,1.185.18p,1.185.18q,1.186.18p,1.186.18q,1.184.17w,1.184.17x,1.184.17y,1.184.18l,1.184.181",
    ",1.183.181,1.185.181,1.186.181,1.187.18p,1.187.18q,1.189.18p,1.189.18q,1.18a.18p,1.18a.18q,1",
    ".183.18p,1.183.18q,1.184.18p,1.184.18q,1.17x.18p,1.17x.18q,1.17w.18p,1.17w.18q,1.17y.18p,1.1",
    "7y.18q,1.185.18p,1.185.18q,1.186.18p,1.186.18q,1.184.17w,1.184.17x,1.184.17y,1.184.18l,1.184",
    ".181,1.183.181,1.185.181,1.186.181,1.184.17w,1.184.17x,1.184.17y,1.184.18l,1.183.18n,1.184.1",
    "8n,1.187.18l,1.183.17w,1.183.17x,1.183.17y,1.184.17w,1.184.17x,1.184.17y,1.187.18l,1.188.18l",
    ",1.17r.18r,1.17r.18r,j.17u.17w.18l,1.17u.17x.17w,1.17u.17x.17w,1.17u.17x.18l,1.17u.17y.18l,1",
    ".17u.18l.17w,1.17u.18l.17x,1.17u.18l.17y,1.17w.18l.17x,1.17w.18l.17x,1.17x.18l.18q,1.17x.18l",
    ".18p,1.183.17x.17w,1.183.17w.17x,1.183.17w.18p,1.183.18l.17x,1.183.18l.17x,1.183.18l.17w,1.1",
    "83.18l.18l,1.183.18l.18l,1.185.17x.17x,1.185.17x.17x,1.185.18l.18l,1.184.17x.18l,1.184.17x.1",
    "8l,1.184.17w.18q,1.184.18l.17y,1.184.18l.17y,1.184.18l.18l,1.184.18l.18l,1.186.17x.18p,1.186",
    ".17y.18l,1.186.17y.18l,1.187.18l.17x,1.187.18l.17x,1.187.18l.18l,1.187.18l.18q,1.189.17w.18l",
    ",1.189.18l.18l,1.189.18l.18l,1.189.18l.18p,1.18a.18l.18l,1.18a.18l.18q,1.18a.18l.18p,1.18h.1",
    "7y.18l,1.18h.17y.18l,1.18i.18l.17x,1.18i.18l.18l,1.18k.17x.18l,1.18k.17x.18q,1.18k.17x.18p,1",
    ".18k.17w.17w,1.18k.17w.17w,1.18k.17y.18l,1.18k.17y.18l,1.18k.18l.17x,1.18k.18l.17x,1.18l.17x",
    ".17w,1.18l.17x.18l,1.18l.17x.18q,1.18l.17w.17x,1.18l.17w.18l,1.18l.17y.17w,1.18l.17y.18l,3.1",
    "8l.17w.17y,1.18n.18l.17w,1.18n.18l.18l,1.18m.17x.18l,1.18m.17x.18p,1.18m.17w.18l,1.18m.17w.1",
    "8l,1.18m.17w.18p,1.18m.18l.18q,1.18m.18l.18p,1.18q.18l.18l,1.18q.18l.18l,1.17s.17y.18q,1.17u",
    ".17w.18q,1.17u.17w.18p,1.17u.17y.18q,1.17u.17y.18p,1.17u.18l.18q,1.17u.18l.18p,1.17w.18l.18q",
    ",1.17w.17x.18p,1.17w.18l.18p,1.183.17y.18p,1.185.17x.18q,1.184.17x.18q,1.186.17x.18q,1.18k.1",
    "7w.18q,1.18k.18l.18q,1.18q.17x.18q,1.18q.17w.18q,1.18q.18l.18q,1.18l.18l.18q,1.18i.18l.18q,1",
    ".18m.17x.18q,1.18i.18l.17x,1.18k.17x.18l,1.189.18l.18q,1.18j.18l.18q,1.18m.17w.17x,1.18l.17y",
    ".18q,1.18k.17w.18l,1.18j.18l.18l,1.18k.17w.18l,1.18m.17w.17x,1.17w.17x.18q,1.17x.17w.18q,1.1",
    "8l.17w.18q,1.18h.18l.18q,1.17s.17x.18q,1.18j.18l.18l,1.189.17w.18l,1.185.18l.18l,1.183.17y.1",
    "8q,1.18m.17w.18q,15.185.18k.1ci,1.18i.18k.1ci,1.17r.18k.18k.18n,1.17r.18j.17s.181,1.18l.17x.",
    "18l.17z,1.185.18k.189.18l,1.181.183.18o.18k,1.189.18k.18q.18n,1.18o.183.18k.18l,1.185.18k.18",
    "p,1.185.18k.18p.w.17r.18k.18k.18n.w.189.18k.18q.18n.w.18o.183.18k.18l,1.17w.18k.w.17w.18k.17",
    "r.18k.18n,1.181.1cc.17r.18k,k.18,1.9hd,2+2.1m,2.x,1.1r,1+2.9hy,q.6c4,1.6c3,1=2.2n,2+2.14,2.3",
    "f,1.3h,1+2.9hw,2+2.9hs,2+2.9hm,2+2.9hk,2+4.9ho,6.2j,1.2l,1.w.lh,1.w.lh,1.w.lh,1.w.lh,1=3.2n,",
    "3.18,1.9hd,3.1n,1.1m,1.1r,1.x,1.6c4,1+2.14,2.3f,1.3h,1+2.9hw,2.z,1.12,1+2.16,2.19,1.1o,1.1q,",
    "1.1p,2.2k,1+2.10,2.1s,5.w.18r,1.18g.18r,1.w.18s,2.w.18t,2.w.18u,1.18g.18u,1.w.18v,1.18g.18v,",
    "1.w.18w,1.18g.18w,1.w.18x,1.18g.18x,1.w.18y,1.18g.18y,1+2.17l,2+2.17m,2+2.17n,2+2.17o,2+2.17",
    "p,2=3.17q,3=2.17r,2=4.17s,4=2.17t,2=4.17u,4=4.17v,4=4.17w,4=4.17x,4=4.17y,4=2.17z,2=2.180,2=",
    "2.181,2=2.182,2=4.183,4=4.184,4=4.185,4=4.186,4=4.187,4=4.188,4=4.189,4=4.18a,4=4.18h,4=4.18",
    "i,4=4.18j,4=4.18k,4=4.18l,4=4.18m,4=4.18n,4=2.18o,2=2.18p,2=4.18q,4.18k.17m,1.18k.17m,1.18k.",
    "17n,1.18k.17n,1.18k.17p,1.18k.17p,1.18k.17r,1.18k.17r,5+w.x,w+q.2p,q+10.2j,10+2.879,2.1a,1+2",
    ".9ho,2.9hd,1.9ob,1.9o2,1.9lt,1.9lv,1.9lx,1.9lz,1.9m1,1.9nn,1.9np,1.9nr,1.9mr,1.9oc,1.9lu,1.9",
    "lw,1.9ly,1.9m0,1+2.9m2,2.9m5,1.9m7,1.9m9,1.9mb,1.9md,1.9mf,1.9mh,1.9mj,1.9ml,1.9mn,1.9mp,1.9",
    "ms,1.9mu,1.9mw,1+6.9my,6.9n6,1.9n9,1.9nc,1.9nf,1+5.9ni,5.9no,1.9nq,1+6.9ns,6.9nz,1.9o3,1+2.9",
    "ll,3+2.3cw,2.3hm,1.3cy,1+2.3ho,2+3.3cz,3+6.3hs,6.3dm,1+3.3d2,3.3dt,1+a.3d5,d+6.3fl,8+6.3fr,8",
    "+6.3fx,8+3.3g3,6+2.4i,2.4s,1.w.lg,1.4m,1.4l,1.6g9,2.7b6,1+4.6mo,4.7fk,1.7gr,sy+14.1fe0,4w+10",
    ".1fiw,5c+b.1fo7,c+f.1foj,g+7.1foz,8+2.1fp7,dp+2.k0,2.6e,1.ih,1.gj,2.ir,1.xuu,1.it,1.is,1+2.g",
    "m,2.5u9,1.go,1.gu,1.ix,1.h0,1.gy,1.gw,1.ij,1.87,1.ik,1.h3,1.hw,1+2.iy,2.h8,1.2mmc,1.x3i,1.ha",
    ",1.2mmd,1.i6,1.2mme,1.6w,1+2.hi,2.35,1.hm,1.2mmg,1+2.hp,2.hs,1.iw,1.iu,1.xuv,1.iv,1.i0,1.8s1",
    ",2.i7,1+2.ip,2.ig,1+3.cg,3.2mmi,1.2mn2,xy+1f.1h34,5s+m.1h80,28g+w.1jgg,gww+w.20dc,2o+p.20fv,",
    "ily+q.2p,q+a.1c,vi.2jx3.2jxh,1.2jx4.2jxh,1.2jx4.2jxh.2jxq,1.2jx4.2jxh.2jxr,1.2jx4.2jxh.2jxs,",
    "1.2jx4.2jxh.2jxt,1.2jx4.2jxh.2jxu,2f.2jzt.2jxh,1.2jzu.2jxh,1.2jzt.2jxh.2jxq,1.2jzu.2jxh.2jxq",
    ",1.2jzt.2jxh.2jxr,1.2jzu.2jxh.2jxr,g0+q.2p,q+q.2p,q+q.2p,q+7.2p,8+i.2x,i+q.2p,q+q.2p,q*2.2p,",
    "3.2s,3.2v,3+2.2y,4+4.32,5+8.37,8+4.2p,5*2.2u,3+6.2x,7+b.34,b+q.2p,q+q.2p,q+2.2p,3+4.2s,6+8.2",
    "y,9+7.37,8+q.2p,q+2.2p,3+4.2s,5+5.2x,6.33,4+7.37,8+q.2p,q+q.2p,q+q.2p,q+q.2p,q+q.2p,q+q.2p,q",
    "+q.2p,q+q.2p,q+q.2p,q+q.2p,q+q.2p,q+q.2p,q+q.2p,q.8h,1.fr,3+h.q9,h.qg,1+7.qr,7.6pz,1+h.q9,h=",
    "2.qr,2+6.qs,6.6pu,1.qd,1.qg,1.qi,1.qu,1.qp,1.qo,1+h.q9,h.qg,1+7.qr,7.6pz,1+h.q9,h=2.qr,2+6.q",
    "s,6.6pu,1.qd,1.qg,1.qi,1.qu,1.qp,1.qo,1+h.q9,h.qg,1+7.qr,7.6pz,1+h.q9,h=2.qr,2+6.qs,6.6pu,1.",
    "qd,1.qg,1.qi,1.qu,1.qp,1.qo,1+h.q9,h.qg,1+7.qr,7.6pz,1+h.q9,h=2.qr,2+6.qs,6.6pu,1.qd,1.qg,1.",
    "qi,1.qu,1.qp,1.qo,1+h.q9,h.qg,1+7.qr,7.6pz,1+h.q9,h=2.qr,2+6.qs,6.6pu,1.qd,1.qg,1.qi,1.qu,1.",
    "qp,1.qo,1=2.rh,4+a.1c,a+a.1c,a+a.1c,a+a.1c,a+a.1c,1mi+9.ts,9+3.u2,3+b.u6,b.uj,1+2.ul,2.ww9,1",
    ".yh,1.uu,1.uw,1.yx,1.xb,1.y7,1+9.ts,9+2.u2,2+2.u6,2.u9,1+6.ub,6+2.ui,2.wh,1.uu,1.ut,1.v3,1.x",
    "7,1.wup,1.xd,1oz+y.2oma,zk+2.17r,2.17w,1.17z,2.18o,1.182,1.17x,1.187,1.18q,1+4.18j,4.183,1.1",
    "89,1.18h,1.185,1.18i,1.181,1.184,1+2.17u,2.17y,1.180,1.186,1.188,1.18a,1.19q,1.1bu,1.1b5,1.1",
    "9r,2.17s,1.17w,2.18n,3.17x,2.18q,1+4.18j,4.183,1.189,1.18h,1.185,1.18i,2.184,1+2.17u,2.17y,2",
    ".186,2.18a,7.17w,5.17x,2.18q,2*2.18k,3.183,1.189,2.185,1.18i,2.184,3.17y,2.186,2.18a,2.1bu,2",
    ".19r,2.17s,1.17w,2.18n,3.17x,1.187,1.18q,1*2.18j,3.18m,1.183,1.189,1.18h,1.185,1.18i,2.184,1",
    "+2.17u,2.17y,2.186,1.188,1.18a,1.19q,2.1b5,2+2.17r,2.17w,1.17z,1+2.18n,2.182,1.17x,1.187,1.1",
    "8q,2+3.18k,3.183,1.189,1.18h,1.185,1.18i,1.181,1.184,1+2.17u,2.17y,1.180,1.186,1.188,1.18a,6",
    ".17s,1.17w,1.17z,2.18o,1.182,1.17x,1.187,1.18q,2+3.18k,3.183,1.189,1.18h,1.185,1.18i,1.181,1",
    ".184,1+2.17u,2.17y,1.180,1.186,1.188,1.18a,g6.1c.18,1.1d.18,1.1e.18,1.1f.18,1.1g.18,1.1h.18,",
    "1.1i.18,1.1j.18,1.1k.18,1.1l.18,6.14.2p.15,1.14.2q.15,1.14.2r.15,1.14.2s.15,1.14.2t.15,1.14.",
    "2u.15,1.14.2v.15,1.14.2w.15,1.14.2x.15,1.14.2y.15,1.14.2z.15,1.14.30.15,1.14.31.15,1.14.32.1",
    "5,1.14.33.15,1.14.34.15,1.14.35.15,1.14.36.15,1.14.37.15,1.14.38.15,1.14.39.15,1.14.3a.15,1.",
    "14.3b.15,1.14.3c.15,1.14.3d.15,1.14.3e.15,1.9hw.37.9hx,1.2r,1.36,1.2r.2s,1.3b.3e,2+q.2p,q.2w",
    ".3a,1.31.3a,1.37.2s,1.37.37,1.34.34.3a,1.3b.2r,r.31.2r,1.31.2s,1.31.36,10.2s.2y,34.9kr.9jf,1",
    ".9mb.9mb,1.9md,e.jez,1.i1j,1.gjw,1.9mv,1.fik,1.hlm,1.r8j,1.hm1,1.fj8,1.k68,1.mch,1.k2h,1.g99",
    ",1.ivg,1.g3x,1.k34,1.g7x,1.oqq,1.n4v,1.rs9,1.hkg,1.gmx,1.lxw,1.jh1,1.jmd,1.feo,1.fex,1.si2,1",
    ".ijq,1.ffx,1.gkz,1.jk7,1.rxs,1.jf7,1.o01,1.o6y,1.glk,1.lts,1.kcp,1.kco,1.n5f,1.gaa,1.gxi,1.s",
    "p9,5.9hw.kdo.9hx,1.9hw.fex.9hx,1.9hw.fik.9hx,1.9hw.i2x.9hx,1.9hw.m9l.9hx,1.9hw.jf7.9hx,1.9hw",
    ".nh3.9hx,1.9hw.gd9.9hx,1.9hw.k0n.9hx,8.ivr,1.gkv,1wf+a.1c,1dsg.fgd,1.fg8,1.fgh,1.2tcy,1.fog,",
    "1.fqm,1.fqz,1.fsy,1.fwa,1.fx5,1.fzb,1.fyn,1.ae6,1.2ud6,1.g25,1.g2c,1.g2s,1.g3b,1.2u58,1.aex,",
    "1.g2v,1.g3x,1.2u6j,1.g47,1.g4k,1.fkc,1.g4s,1.g51,1.3ly7,1.g6t,1.g77,1.afz,1.g8r,1.g92,1.gaa,",
    "1.gaf,1.ahh,1.gcn,1.gcp,1.gdg,1.ge2,1+2.ged,2.gev,1.gg9,1.ggh,1.ggq,1.ghf,1.ghp,1=3.ghr,3.2v",
    "58,1.m7k,1.gju,1.gkf,1.2vdv,1.gkr,1.gkx,1.gli,1.gpq,1.gmw,1.gnc,1.go8,1.gpu,1.gs6,1.gsw,1.gu",
    "r,1.gv7,1=2.gw4,2.gwp,1.gx7,1.gxf,1.gxu,1.h7a,1.gzq,1.h7b,1.h1t,1.h2s,1.g7b,1.hke,1.hce,1.hd",
    "g,1.he5,1.haj,1.hf6,1.hf5,1.hik,1.2x9g,1.hki,1.hkn,1.hl2,1.hlm,1.hlu,1.hnm,1.2xm0,1.2xnu,1.h",
    "rg,1.hsr,1.ht3,1.hqw,1.huu,1.aum,1.av0,1.hzc,1=2.i0u,2.2y88,1.i4j,1.i54,1.i5j,1.i5v,1.2yhk,1",
    ".i67,1.i6e,1.itv,1.i76,1.ayp,1.i8w,1.i9a,1.ibk,1.ia5,1.2z1g,1.if7,1.2z1i,1.ige,1.igb,1.igs,1",
    "+2.ijl,2.b3j,1.ikd,1.ilk,1.im5,1.ind,1.b4y,1.2zr7,1.b5o,1.ipc,1.ipf,1.ipi,1.iq2,1.3pg2,1.iri",
    ",1=2.3035,2.poh,1=2.isi,2.b7r,1.335k,1.3cgq,1.iua,1.iuj,1.b8j,1.ivu,1.ix9,1.ixj,1.iyh,1.j29,",
    "1.bay,1.ba4,1.j2s,1.30t0,1.j47,1.j7s,1.j7w,1.j7y,1.j7w,1.j96,1.j9q,1.jaq,1.jac,1.jan,1.jby,1",
    ".jci,1.jcm,1.jdc,1.jdn,1.jfh,1.jht,1.jis,1.jm8,1.31n0,1.jlp,1.jjw,1.jmw,1.jnn,1.jqc,1.31td,1",
    ".js2,1.jph,1.jop,1.bhq,1.ju1,1.jum,1.jvh,1.juf,1.bjg,1.k0f,1.k18,1.32mi,1.k4j,1.kc8,1.k7d,1.",
    "bo9,1.k9d,1.bns,1.bms,1.g42,1.g45,1.kcg,1.k9o,1.pf1,1.deh,1.kd3,1.kd7,1.kdd,1.kf2,1.ker,1.33",
    "cz,1.bpl,1.kje,1.kg5,1.klu,1.kn9,1.33hp,1.kni,1.kkf,1.kr8,1.brx,1.ksi,1.kv7,1.kx6,1.l2g,1.33",
    "xf,1.l3v,1.bvc,1.l5t,1.34br,1.l78,1.bwu,1.l82,1.l9b,1+2.la2,2.34p9,1.2yvf,1.34sa,1.le6,1.354",
    "s,1.lhb,1.lhp,1.lev,1.ljq,1.lku,1.lmf,1.lkx,1.lm1,1.lmg,1.lmt,1.357i,1.lkk,1.lrj,1.lta,1.c37",
    ",1.lvv,1.lvr,1.35jl,1.lq1,1.m0e,1.35ni,1.35ou,1.m2u,1.m61,1.m5a,1.m57,1.c5y,1.m6i,1.m7x,1.m7",
    "r,1.m99,1.2u5h,1.mdh,1.368z,1.mfw,1.36i3,1.mjs,1.mk5,1.mkw,1.36yw,1.mm8,1.mmt,1.3779,1.37dg,",
    "1.mt6,1.mtn,1.cdo,1.mud,1=2.ce0,2.myv,1.mzg,1.n01,1.n0l,1.n2i,1.cgr,1.n50,1.386u,1.n5q,1.389",
    "e,1.n74,1.2zrz,1.nbk,1.38v5,1.38vs,1.38zo,1.cn0,1.cnc,1.nhw,1.394j,1.394i,1.395l,1.396b,1+2.",
    "nj2,2.nj3,1.nka,1.cop,1.nm3,1.cp2,1.cra,1.39r1,1.nri,1.nt8,1.nv0,1.ctf,1.3a5i,1.nyu,1.3a8q,1",
    ".3a9x,1.o0f,1.o2z,1.cvj,1.o5c,1.o5m,1.o5r,1.3at8,1=2.3b1j,2.oa6,1.d1e,1.3b8r,1.og6,1.og9,1.d",
    "2f,1.3beo,1.onm,1.d5s,1.oo8,1.oo3,1.oow,1.3c06,1.orn,1.d8h,1.ouf,1.ow2,1.oxx,1.d9w,1.3ciw,1.",
    "3cjr,1.dax,1.3cnt,1.p6i,1.3cqm,1.p79,1.pa2,1.pad,1.3d22,1.3d43,1.pcw,1.3d7s,1.pdc,1.33a7,1.d",
    "ed,1.pf6,1.phf,1.dfv,1.pj2,1.hx1,1.3dlz,1.3dmd,1.33bn,1.33bw,1.poh,1.pok,1.sda,1.dij,1.psh,1",
    ".psb,1.pst,1.gc3,1.ptd,1.ptf,1.ptp,1.puu,1.3ebg,1.put,1.pwd,1.pyb,1.q0d,1.pwj,1.q0t,1.q1z,1.",
    "q53,1.pxv,1.q16,1.q18,1.q1o,1.3eie,1.3eqz,1.3emt,1.dnv,1.q9d,1.q9f,1.qae,1.3g0a,1.qck,1.3f3g",
    ",1.dp9,1.dpd,1.3f75,1.3ff6,1.dpn,1.qj4,1.qjg,1.qjr,1.qjt,1.qll,1.qko,1.qoe,1.qn6,1.qrd,1.qp4",
    ",1.qqz,1.qrq,1.dsn,1.qu9,1.qv5,1.dtl,1.qxs,1.qxv,1.3giv,1.r13,1.r1a,1.dv9,1.r22,1.aez,1.3gz2",
    ",1.3h46,1.dz2,1.dzb,1.rds,1.rfx,1.rka,1.rpx,1.3hrc,1.rsb,1.rsx,1.rvf,1.rxz,1.3i9b,1.2upw,1.s",
    "0b,1.rzw,1.s1c,1.2uvy,1.s7o,1.sag,1.3jki,1.3jl9,1.sk4,1.smp,1.snl,1.3ju6,1.snv,1.svs,1+2.t07",
    ",2.sxo,1.t89,1.t91,1.3ksa,1.tjf,1.ej9,1.tkn,1.3l2v,1.eli,1.ts3,1.iia,1.tur,1.3ltx,1.3lzu,1.e",
    "pa,1.epi,1.u00,1.3mdm,1.er6,1.3mhi,1=2.u17,2.u21,1.3mpi,1.u76,1.eur,1.u95,1.ucn,1.ude,1.uf2,",
    "1.ez2,1.3nsg,1.umq,1.uv4,1.v0d,1.f66,1.f71,1.v3b,1.3owe,1.f7c,1.3oxx,1.3p5a,1.3p8x,1.vcr,1.f",
    "9y,1.veh,1.vem,1.vet,1.vf3,1.vfa,1.vgb,1.3pxc"]

/-- Characters at equal distances with what replaces the first of them; for the others this is moved
on. -/
structure Replacement where
  first : Nat
  count : Nat
  step : Nat
  shift : Nat
  target : List Nat

namespace Replacement

def read (previous : Nat) (entry : List Char) : Replacement :=
  let number (ds : List Char) : Nat := (numeral? 36 ds).getD 0
  let parts := splitOn '.' entry
  let source := parts.headD []
  let gap := source.takeWhile fun c => (digitValue? c).isSome
  let first := previous + number gap
  let target := parts.tail.map number
  match source.drop gap.length with
  | '+' :: count => ⟨first, number count, 1, 1, target⟩
  | '=' :: count => ⟨first, number count, 1, 0, target⟩
  | '*' :: count => ⟨first, number count, 2, 2, target⟩
  | _ => ⟨first, 1, 1, 0, target⟩

def image? (r : Replacement) (n : Nat) : Option (List Char) :=
  let i := (n - r.first) / r.step
  if r.first ≤ n ∧ i < r.count ∧ (n - r.first) % r.step = 0 then
    some (r.target.map fun t => Char.ofNat (t + i * r.shift))
  else none

end Replacement

def replacements : List Replacement :=
  let read (done : List Replacement) (entry : List Char) : List Replacement :=
    .read ((done.head?.map Replacement.first).getD 0) entry :: done
  ((splitOn ',' replacementText.toList).foldl read []).reverse

def replacement? (c : Char) : Option (List Char) := replacements.findSome? fun r => r.image? c.toNat

def mapChar? (c : Char) : Option (List Char) :=
  if admission c = refusedLabel then none
  else if admission c = passedOverLabel then some []
  else some ((replacement? c).getD [c])

def isKept (c : Char) : Bool := mapChar? c == some [c]

end HeatStack.Unicode
